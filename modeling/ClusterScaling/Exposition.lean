import ClusterScaling.Decimal.Fixed
import ClusterScaling.Decision
import ClusterScaling.Quorum
import ClusterScaling.Scalar

/-!
# Figures about what was decided

An observer counts the decisions of each tier by direction and the
verdicts of the quorum guard, and remembers the last count and the last
confidence. A recorder keeps these figures for every cluster that was
ever mentioned, also if only by a question, and writes them down in the
line format of a metrics database: for each figure its help, its type and
its samples, clusters in the order of their keys.
-/

namespace ClusterScaling

/-- How many decisions went in each direction. -/
structure EventCounts where
  /-- Decisions to grow. -/
  up : Nat
  /-- Decisions to shrink. -/
  down : Nat
  /-- Decisions to stay. -/
  hold : Nat
  deriving DecidableEq

namespace EventCounts

/-- No decision yet. -/
def zero : EventCounts := ⟨0, 0, 0⟩

/-- The count for a direction. -/
def get (c : EventCounts) : Action → Nat
  | .scaleUp => c.up
  | .scaleDown => c.down
  | .hold => c.hold

/-- One more decision in a direction. -/
def count (c : EventCounts) : Action → EventCounts
  | .scaleUp => { c with up := c.up + 1 }
  | .scaleDown => { c with down := c.down + 1 }
  | .hold => { c with hold := c.hold + 1 }

@[simp]
theorem get_count (c : EventCounts) (a b : Action) :
    (c.count a).get b = if a = b then c.get b + 1 else c.get b := by
  cases a <;> cases b <;> rfl

end EventCounts

/-- How often the guard gave each verdict. -/
structure VerdictCounts where
  /-- Candidates that passed. -/
  allowed : Nat
  /-- Candidates that were replaced. -/
  adjusted : Nat
  /-- Candidates that were refused. -/
  vetoed : Nat
  /-- Candidates that passed by permission. -/
  quorumBreak : Nat
  deriving DecidableEq

namespace VerdictCounts

/-- No verdict yet. -/
def zero : VerdictCounts := ⟨0, 0, 0, 0⟩

/-- The count for a verdict. -/
def get (c : VerdictCounts) : Verdict → Nat
  | .allowed => c.allowed
  | .adjusted => c.adjusted
  | .vetoed => c.vetoed
  | .quorumBreak => c.quorumBreak

/-- One more verdict. -/
def count (c : VerdictCounts) : Verdict → VerdictCounts
  | .allowed => { c with allowed := c.allowed + 1 }
  | .adjusted => { c with adjusted := c.adjusted + 1 }
  | .vetoed => { c with vetoed := c.vetoed + 1 }
  | .quorumBreak => { c with quorumBreak := c.quorumBreak + 1 }

@[simp]
theorem get_count (c : VerdictCounts) (v w : Verdict) :
    (c.count v).get w = if v = w then c.get w + 1 else c.get w := by
  cases v <;> cases w <;> rfl

end VerdictCounts

/-- The figures of a tier. -/
structure TierFigures where
  /-- The decisions by direction. -/
  events : EventCounts
  /-- The count of the last decision. -/
  replicas : UInt32
  /-- The confidence of the last decision. -/
  confidence : Float

/-- The figures of a tier about which nothing was decided. -/
def TierFigures.zero : TierFigures := ⟨.zero, 0, 0.0⟩

/-- The figures of a cluster. -/
structure ClusterFigures where
  /-- The figures of its tiers. -/
  tiers : PerTier TierFigures
  /-- The verdicts about its primaries. -/
  verdicts : VerdictCounts

/-- The figures of a cluster about which nothing was decided. -/
def ClusterFigures.zero : ClusterFigures := ⟨.both .zero, .zero⟩

/-- The figures of all clusters, by key. -/
structure Recorder where
  /-- The figures of every cluster that was mentioned. -/
  clusters : Table ClusterFigures

namespace Recorder

/-- A recorder that has heard of no cluster. -/
def empty : Recorder := ⟨.empty⟩

/-- The figures of a cluster. -/
def figures (r : Recorder) (cluster : String) : ClusterFigures :=
  (r.clusters.get? cluster).getD .zero

/-- The recorder with changed figures of a cluster. -/
def update (r : Recorder) (cluster : String) (f : ClusterFigures → ClusterFigures) : Recorder :=
  ⟨r.clusters.insert cluster (f (r.figures cluster))⟩

/-- The recorder that has heard of a cluster. -/
def mention (r : Recorder) (cluster : String) : Recorder := r.update cluster id

/-- Counts a decision. -/
def recordDecision (r : Recorder) (cluster : String) (tier : Tier) (a : Action)
    (confidence : Float) : Recorder :=
  r.update cluster fun f =>
    { f with tiers := f.tiers.modify tier fun t =>
        { t with events := t.events.count a, confidence := unitClamp confidence } }

/-- Counts a verdict. -/
def recordVerdict (r : Recorder) (cluster : String) (v : Verdict) : Recorder :=
  r.update cluster fun f => { f with verdicts := f.verdicts.count v }

/-- Remembers the count of replicas of a tier. -/
def setReplicas (r : Recorder) (cluster : String) (tier : Tier) (n : UInt32) : Recorder :=
  r.update cluster fun f =>
    { f with tiers := f.tiers.modify tier fun t => { t with replicas := n } }

@[simp]
theorem figures_update (r : Recorder) (cluster other : String)
    (f : ClusterFigures → ClusterFigures) :
    (r.update cluster f).figures other =
      if cluster = other then f (r.figures cluster) else r.figures other := by
  unfold figures update
  rw [Table.get?_insert]
  split <;> rfl

/-! ## The written form -/

/-- A sample: a name, labels in order, and a value. -/
structure Sample where
  /-- The name of the figure. -/
  name : String
  /-- The labels and their values. -/
  labels : List (String × String)
  /-- The value as it is written. -/
  value : String

/-- A sample on a line. -/
def Sample.line (s : Sample) : String :=
  s.name ++ "\x7b" ++
    String.intercalate "," (s.labels.map fun l => l.1 ++ "=\"" ++ l.2 ++ "\"") ++ "\x7d " ++
    s.value ++ "\n"

/-- A figure with its help, its type and its samples. -/
structure Family where
  /-- The name of the figure. -/
  name : String
  /-- What it says. -/
  help : String
  /-- Whether it is a counter or a gauge. -/
  kind : String
  /-- The labels behind the cluster, and the value, of each sample of a cluster. -/
  samples : ClusterFigures → List (List (String × String) × String)

/-- The decisions by tier and direction. -/
def events : Family :=
  ⟨"tierscale_scaling_events_total", "Scaling decisions by direction.", "counter", fun f =>
    Tier.all.flatMap fun t => Action.all.map fun a =>
      ([("tier", t.name), ("direction", a.name)], toString ((f.tiers.get t).events.get a))⟩

/-- The verdicts about the primaries. -/
def verdicts : Family :=
  ⟨"tierscale_quorum_validations_total", "Quorum guard outcomes for primaries.", "counter",
    fun f => Verdict.all.map fun v => ([("outcome", v.name)], toString (f.verdicts.get v))⟩

/-- The last counts. -/
def replicas : Family :=
  ⟨"tierscale_replicas", "Replica count after the last decision.", "gauge", fun f =>
    Tier.all.map fun t => ([("tier", t.name)], toString (f.tiers.get t).replicas.toNat)⟩

/-- The last confidences. -/
def confidences : Family :=
  ⟨"tierscale_decision_confidence", "Confidence of the last decision (0.0-1.0).", "gauge",
    fun f => Tier.all.map fun t =>
      ([("tier", t.name)], Decimal.fixed 4 (f.tiers.get t).confidence)⟩

/-- A figure of all clusters, on lines. -/
def Family.render (family : Family) (r : Recorder) : String :=
  "# HELP " ++ family.name ++ " " ++ family.help ++ "\n" ++
    "# TYPE " ++ family.name ++ " " ++ family.kind ++ "\n" ++
    String.join (r.clusters.entries.flatMap fun c => (family.samples c.2).map fun s =>
      (Sample.mk family.name (("cluster", c.1) :: s.1) s.2).line)

/-- Everything that was recorded. -/
def render (r : Recorder) : String :=
  String.join ([events, verdicts, replicas, confidences].map fun f => f.render r)

end Recorder

end ClusterScaling
