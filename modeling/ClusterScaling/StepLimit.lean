import ClusterScaling.History
import ClusterScaling.Settings

/-!
# Limits on the steps of a tier

A tier may be asked to jump, and the rules of its owner may say that it
walks. Two rules look back at the history. A change inside the
stabilization window of the other direction suppresses a step entirely,
so that the tier does not swing. And each step policy grants an allowance
per period, from which the moves already made in the period are deducted.

A limit only ever shortens a step: the limited step has the direction of
the requested one or is no step at all.
-/

namespace ClusterScaling

/-- Why a step is not taken as requested. -/
inductive StepCause where
  /-- A change in the other direction is too recent. -/
  | stabilizing (opposite : Action) (age : Nat) (window : Duration)
  /-- The direction is closed. -/
  | closed (direction : Action)
  /-- The step is longer than the allowance. -/
  | capped (direction : Action) (cap requested : Nat)
  deriving DecidableEq

/-- The wording of a cause. -/
def StepCause.message : StepCause → String
  | stabilizing opposite age window =>
    "stabilization: " ++ opposite.name ++ " " ++ toString age ++ "ms ago inside " ++
      window.display ++ " window"
  | closed direction => direction.name ++ " disabled by behavior policy"
  | capped direction cap requested =>
    direction.name ++ " step limited to " ++ toString cap ++ " (requested " ++
      toString requested ++ ")"

/-- A step within the limits. -/
structure LimitedStep where
  /-- How many replicas to add, or to remove if negative. -/
  delta : Int
  /-- Why this is not what was requested, if it is not. -/
  cause : Option StepCause
  deriving DecidableEq

namespace StepPolicy

/-- How many replicas the policy lets a tier move in a period. A share of
the live count is rounded up, and a positive share is never nothing. -/
def allowance (p : StepPolicy) (current : UInt32) : Nat :=
  match p.kind with
  | .pods => p.value.toNat
  | .percent =>
    if p.value.toNat = 0 then 0
    else min (max ((current.toNat * p.value.toNat + 99) / 100) 1) (UInt32.size - 1)

/-- How many replicas have moved in a direction in the policy's period. -/
def moved (p : StepPolicy) (direction : Action) (h : History) (now : UInt64) : Nat :=
  (((h.within now p.period).filter fun m => m.action = direction).map Move.magnitude).foldr
    (· + ·) 0

/-- What is left of the allowance. -/
def budget (p : StepPolicy) (direction : Action) (current : UInt32) (h : History)
    (now : UInt64) : Nat :=
  p.allowance current - p.moved direction h now

end StepPolicy

namespace StepRules

/-- The latest change in the other direction inside the stabilization window. -/
def recentOpposite? (r : StepRules) (direction : Action) (h : History) (now : UInt64) :
    Option Move :=
  if r.window.isZero then none
  else
    ((h.within now r.window).filter fun m => m.action = direction.opposite).foldl
      (fun best m => match best with
        | some b => if m.timestamp < b.timestamp then some b else some m
        | none => some m)
      none

/-- The longest step that the policies let the tier take now, if they limit it. -/
def cap? (r : StepRules) (direction : Action) (current : UInt32) (h : History) (now : UInt64) :
    Option Nat :=
  let budgets := r.policies.map fun p => p.budget direction current h now
  match r.choice with
  | .disabled => some 0
  | .max => budgets.max?
  | .min => budgets.min?

/-- A step in one direction within the rules. -/
def limit (r : StepRules) (direction : Action) (requested : Int) (current : UInt32)
    (h : History) (now : UInt64) : LimitedStep :=
  match r.recentOpposite? direction h now with
  | some m =>
    ⟨0, some (.stabilizing direction.opposite (now.toNat - m.timestamp.toNat) r.window)⟩
  | none =>
    match r.cap? direction current h now with
    | none => ⟨requested, none⟩
    | some cap =>
      if requested.natAbs ≤ cap then ⟨requested, none⟩
      else
        let cause := if r.choice = .disabled then .closed direction
          else .capped direction cap requested.natAbs
        ⟨requested.sign * cap, some cause⟩

end StepRules

namespace Stepping

/-- The direction of a step. -/
def direction (delta : Int) : Action :=
  if 0 < delta then .scaleUp else if delta < 0 then .scaleDown else .hold

/-- The rules for a direction. -/
def rules (s : Stepping) : Action → StepRules
  | .scaleUp => s.up
  | _ => s.down

/-- A step within the rules of its direction. -/
def limit (s : Stepping) (requested : Int) (current : UInt32) (h : History) (now : UInt64) :
    LimitedStep :=
  match direction requested with
  | .hold => ⟨0, none⟩
  | d => (s.rules d).limit d requested current h now

@[simp]
theorem limit_zero (s : Stepping) (current : UInt32) (h : History) (now : UInt64) :
    s.limit 0 current h now = ⟨0, none⟩ := rfl

end Stepping

/-- The count that a step leads to. A step out of the counts that exist is not taken. -/
def stepped (current : UInt32) (delta : Int) : UInt32 :=
  let n := (current.toNat : Int) + delta
  if 0 ≤ n ∧ n < UInt32.size then UInt32.ofNat n.toNat else current

@[simp]
theorem stepped_zero (current : UInt32) : stepped current 0 = current := by
  have h := current.toNat_lt
  rw [stepped]
  split
  · simp
  · rfl

end ClusterScaling
