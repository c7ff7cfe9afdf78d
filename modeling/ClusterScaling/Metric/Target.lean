import ClusterScaling.Fault
import ClusterScaling.Metric

/-!
# Targets of metrics

A target is written as a plain number, as a percentage, or as a
duration. A plain number is compared with the live value as it is. A
percentage and a duration are converted to the unit of the live value:
latencies are reported in milliseconds and custom quantities in seconds,
and no other quantity is a time. A target that is not finite and positive
can be divided by only with nonsense as the result, so it is refused,
and so is one that underflows to zero on the way.
-/

namespace ClusterScaling

/-- How a target is written. -/
inductive TargetForm where
  /-- A plain number. -/
  | absolute
  /-- A percentage. -/
  | fraction
  /-- A duration. -/
  | duration
  deriving DecidableEq, Repr

/-- A target in the unit of the live value. -/
structure Target where
  /-- How the target is written. -/
  form : TargetForm
  /-- What the live value should be. -/
  value : Float

namespace Target

/-- A duration in the unit in which a quantity is reported. -/
def ofDuration? (kind : MetricKind) (d : Duration) : Option Float :=
  match kind with
  | .queryLatency => some (d.toSeconds * 1000.0)
  | .custom => some d.toSeconds
  | _ => none

/-- What a target writes, before its value is looked at. -/
def written? (kind : MetricKind) (raw : String) : Option Target :=
  let cs := Text.trim raw.toList
  match Text.dropEnding? ['%'] cs with
  | some percent => (Decimal.read? (Text.trim percent)).map fun x => ⟨.fraction, x / 100.0⟩
  | none =>
    match Decimal.read? cs with
    | some x => some ⟨.absolute, x⟩
    | none =>
      if Duration.hasUnit raw then do
        let d ← Duration.ofText? raw
        let x ← ofDuration? kind d
        pure ⟨.duration, x⟩
      else none

/-- Whether a number can be a target or a weight. -/
def isUsable (x : Float) : Bool := x.isFinite && 0.0 < x

theorem isUsable_iff {x : Float} : isUsable x = true ↔ x.isFinite = true ∧ 0.0 < x := by
  rw [isUsable, Bool.and_eq_true, decide_eq_true_eq]

/-- The factor that turns a live value into the unit of a percentage
target: utilisations are reported in percent themselves. -/
def fractionScale : MetricKind → Float
  | .cpu | .memory => 0.01
  | _ => 1.0

/-- A live value in the unit of the target. -/
def inUnitOf (t : Target) (kind : MetricKind) (live : Float) : Float :=
  match t.form with
  | .fraction => live * fractionScale kind
  | _ => live

end Target

/-- The target of a metric, or the fault that it has none. -/
def MetricSpec.target? (m : MetricSpec) : Except Fault Target :=
  match Target.written? m.kind m.target with
  | some t =>
    if Target.isUsable t.value then .ok t else .error (.invalidTarget m.label m.target)
  | none => .error (.invalidTarget m.label m.target)

end ClusterScaling
