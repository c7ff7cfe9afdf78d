import ClusterScaling.Cycle

/-!
# Cycles one after the other

A series is what becomes of a cluster on which cycles run one after the
other, each starting from the histories that the one before it has left.
All that a cycle has to wait for is settled in its `Round`, so a series is
a fold of `Cycle.outcome` over rounds. Nothing overlaps here; that cycles
which do overlap come out as a series is a law of fleets.
-/

namespace ClusterScaling

/-- One cycle of a series: what is live, as of when it decides, and what it is told. -/
structure Round where
  /-- What is running. -/
  live : LiveState
  /-- The time as of which the cycle decides, in milliseconds of the wall clock. -/
  now : UInt64
  /-- What the cycle is told. -/
  told : Told

/-- Whether a cycle that is told this ends with decisions that are remembered. -/
def Told.commits : Told → Bool
  | .cancelled => false
  | _ => true

namespace Round

/-- Whether the cycle ends with decisions that are remembered. -/
def commits (r : Round) : Bool := r.told.commits

/-- The result of the cycle. -/
def outcome (s : Settings) (cluster : String) (h : ClusterHistory) (r : Round) : Outcome :=
  Cycle.outcome s cluster r.live h r.now r.told

/-- The histories that the cycle leaves. -/
def after (s : Settings) (cluster : String) (h : ClusterHistory) (r : Round) : ClusterHistory :=
  if r.commits then Cycle.remember s r.live (r.outcome s cluster h) h r.now else h

/-- What is remembered of the cycle about a tier. -/
def move (s : Settings) (cluster : String) (h : ClusterHistory) (r : Round) (t : Tier) : Move :=
  .ofDecision (r.live.replicas.get t) ((r.outcome s cluster h).tiers.get t).decision

@[simp]
theorem cancelled_outcome (s : Settings) (cluster : String) (h : ClusterHistory) (r : Round) :
    (r.outcome s cluster h).cancelled = !r.commits := by
  obtain ⟨live, now, told⟩ := r
  cases told <;> rfl

end Round

namespace Series

/-- The histories after the cycles of a series. -/
def after (s : Settings) (cluster : String) (h : ClusterHistory) (rs : List Round) :
    ClusterHistory :=
  rs.foldl (Round.after s cluster) h

/-- The results of the cycles of a series. -/
def outcomes (s : Settings) (cluster : String) : ClusterHistory → List Round → List Outcome
  | _, [] => []
  | h, r :: rs => r.outcome s cluster h :: outcomes s cluster (r.after s cluster h) rs

/-- What is remembered of a series about a tier, before anything of it is forgotten. -/
def moves (s : Settings) (cluster : String) (t : Tier) : ClusterHistory → List Round → List Move
  | _, [] => []
  | h, r :: rs =>
    (if r.commits then [r.move s cluster h t] else []) ++
      moves s cluster t (r.after s cluster h) rs

variable (s : Settings) (cluster : String) (h : ClusterHistory)

@[simp]
theorem after_nil : after s cluster h [] = h := rfl

@[simp]
theorem after_cons (r : Round) (rs : List Round) :
    after s cluster h (r :: rs) = after s cluster (r.after s cluster h) rs := rfl

@[simp]
theorem after_append (rs ts : List Round) :
    after s cluster h (rs ++ ts) = after s cluster (after s cluster h rs) ts :=
  List.foldl_append

/-- The results of a series are those of its first part and then those of the rest, which starts
from the histories that the first part leaves. -/
theorem outcomes_append (rs ts : List Round) :
    outcomes s cluster h (rs ++ ts)
      = outcomes s cluster h rs ++ outcomes s cluster (after s cluster h rs) ts := by
  induction rs generalizing h with
  | nil => rfl
  | cons r rs ih =>
    show r.outcome s cluster h :: outcomes s cluster (r.after s cluster h) (rs ++ ts) = _
    rw [ih]
    rfl

/-- A series has a result for each of its cycles. -/
@[simp]
theorem length_outcomes (rs : List Round) : (outcomes s cluster h rs).length = rs.length := by
  induction rs generalizing h with
  | nil => rfl
  | cons r rs ih => exact congrArg (· + 1) (ih _)

end Series

end ClusterScaling
