import ClusterScaling.Metric.Target
import ClusterScaling.Reading
import ClusterScaling.Scalar

/-!
# Loads

The **load** of a metric is its live value divided by its target: one
when the tier has what it needs, two when it should have twice as many
replicas. A configured metric has a load only if it has a usable weight,
a usable target and a live value, and what has none is left out of every
score for a stated cause. `Loads` therefore holds exactly one outcome for
each configured metric, so nothing can be lost between the scored and the
skipped ones.
-/

namespace ClusterScaling

/-- A scored metric. -/
structure Load (α : Type) where
  /-- The label of the metric. -/
  label : String
  /-- The quantity that is watched. -/
  kind : MetricKind
  /-- The live value in the unit of the target. -/
  current : α
  /-- The target. -/
  target : α
  /-- How much the metric counts. -/
  weight : α

/-- The live value in units of the target. -/
def Load.ratio {α : Type} [Scalar α] (l : Load α) : α := l.current / l.target

/-- Why a metric is not scored. -/
inductive Unscored where
  /-- The weight is not finite and positive. -/
  | badWeight
  /-- The target cannot be used. -/
  | badTarget (fault : Fault)
  /-- There is no value of this cycle. -/
  | notLive
  deriving DecidableEq

/-- The wording of a cause. -/
def Unscored.message : Unscored → String
  | badWeight => "non-positive weight"
  | badTarget fault => fault.message
  | notLive => "no live value"

/-- The outcome for each configured metric, in order, under its label. -/
structure Loads (α : Type) where
  /-- The outcomes. -/
  outcomes : List (String × Except Unscored (Load α))

namespace Loads

variable {α : Type} [Scalar α]

/-- The load of a metric, or why it has none. -/
def measure (α : Type) [Scalar α] (r : Readings) (m : MetricSpec) : Except Unscored (Load α) :=
  if !Target.isUsable m.weight then .error .badWeight
  else
    match m.target? with
    | .error fault => .error (.badTarget fault)
    | .ok t =>
      match (r.get m.field).live? with
      | none => .error .notLive
      | some live =>
        let current : α := match t.form with
          | .fraction => Scalar.ofFloat live * Scalar.ofFloat (Target.fractionScale m.kind)
          | _ => Scalar.ofFloat live
        .ok ⟨m.label, m.kind, current, Scalar.ofFloat t.value, Scalar.ofFloat m.weight⟩

/-- The loads of a tier's metrics under its readings. -/
def ofReadings (α : Type) [Scalar α] (specs : List MetricSpec) (r : Readings) : Loads α :=
  ⟨specs.map fun m => (m.label, measure α r m)⟩

/-- How many metrics are configured. -/
def configured (l : Loads α) : Nat := l.outcomes.length

/-- The metrics that are scored, in order. -/
def scored (l : Loads α) : List (Load α) :=
  l.outcomes.filterMap fun o => match o.2 with
    | .ok load => some load
    | .error _ => none

/-- The labels of the metrics that are not scored, in order, and why. -/
def skipped (l : Loads α) : List (String × Unscored) :=
  l.outcomes.filterMap fun o => match o.2 with
    | .ok _ => none
    | .error cause => some (o.1, cause)

/-- Whether every configured metric is scored. -/
def isComplete (l : Loads α) : Bool := l.scored.length == l.configured

/-- The scored part of the configured metrics. -/
def availability (l : Loads α) : Float :=
  if l.configured = 0 then 0.0
  else (UInt64.ofNat l.scored.length).toFloat / (UInt64.ofNat l.configured).toFloat

/-- A sum in the order of the list. It starts from the zero that leaves every number as it is,
also a negative zero. -/
def sum (xs : List α) : α := xs.foldl (· + ·) (Scalar.ofFloat (-0.0))

/-- The mean of numbers under weights, if there is any weight. -/
def weightedMean (xs : List (α × α)) : Option α :=
  let total := sum (xs.map (·.2))
  if xs.isEmpty || Scalar.atMost total (Scalar.ofFloat 0.0) then none
  else some (sum (xs.map fun x => x.1 * x.2) / total)

/-- The mean load, if any metric is scored. -/
def composite (l : Loads α) : Option α :=
  weightedMean (l.scored.map fun s => (s.ratio, s.weight))

/-- The load of the most loaded metric. -/
def worst (l : Loads α) : α := Scalar.greatest (l.scored.map Load.ratio)

@[simp]
theorem configured_ofReadings (specs : List MetricSpec) (r : Readings) :
    (ofReadings α specs r).configured = specs.length := by
  rw [configured, ofReadings, List.length_map]

end Loads

end ClusterScaling
