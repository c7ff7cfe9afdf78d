import ClusterScaling.Load
import ClusterScaling.Settings

/-!
# The band around the target load

A load within the tolerance around one asks for nothing. Above the band
the tier grows, below it the tier shrinks, but only if every configured
metric agrees to be scored: a metric that is missing might be the one
that is overloaded. Which load is compared with the band, the **driver**,
is the trigger policy's choice, and the driver also says by how much.

Under `eagerUp` the driver is the greatest load, so one overloaded metric
lifts it above the band, and it is below the band only if all loads are.
-/

namespace ClusterScaling

/-- Where a load lies. -/
inductive Side where
  /-- Above the band: too few replicas. -/
  | above
  /-- Within the band. -/
  | within
  /-- Below the band: too many replicas. -/
  | below
  deriving DecidableEq, Repr

/-- The loads that ask for nothing. -/
structure Band (α : Type) where
  /-- The lower edge. -/
  lower : α
  /-- The upper edge. -/
  upper : α

namespace Band

variable {α : Type} [Scalar α]

/-- The band around one. -/
def around (tolerance : α) : Band α :=
  ⟨Scalar.ofFloat 1.0 - tolerance, Scalar.ofFloat 1.0 + tolerance⟩

/-- Where a driver lies, when incomplete loads never count as low. -/
def side (b : Band α) (complete : Bool) (driver : α) : Side :=
  if Scalar.less b.upper driver then .above
  else if complete && Scalar.less driver b.lower then .below
  else .within

variable {b : Band α} {complete : Bool} {driver : α}

theorem side_eq_above_iff :
    b.side complete driver = .above ↔ Scalar.less b.upper driver = true := by
  unfold side
  split
  · next habove => exact iff_of_true rfl habove
  · next habove => split <;> exact iff_of_false nofun habove

theorem side_eq_below_iff : b.side complete driver = .below
    ↔ Scalar.less b.upper driver = false ∧ complete = true ∧ Scalar.less driver b.lower = true := by
  unfold side
  rw [← Bool.and_eq_true]
  split
  · next habove => exact iff_of_false nofun fun h => Bool.false_ne_true (h.1.symm.trans habove)
  · next habove =>
    rw [and_iff_right (Bool.eq_false_iff.mpr habove)]
    split
    · next hbelow => exact iff_of_true rfl hbelow
    · next hbelow => exact iff_of_false nofun hbelow

end Band

variable {α : Type} [Scalar α]

/-- The load that is compared with the band. -/
def TriggerPolicy.driver (p : TriggerPolicy) (l : Loads α) (composite : α) : α :=
  match p with
  | .eagerUp => l.worst
  | .composite => composite

/-- The count that brings a load from the driver to one. A slack of a
billionth keeps rounding from adding a replica to an exact product. -/
def proportional (base : UInt32) (driver : α) : UInt32 :=
  Scalar.countFrom (Scalar.ofCount base * driver - Scalar.ofFloat 1e-9)

/-- The count that a side asks for, before any bound. A tier at zero grows as from one replica. -/
def Side.rawTarget (s : Side) (current : UInt32) (driver : α) : UInt32 :=
  match s with
  | .above => proportional (if current < 1 then 1 else current) driver
  | .below => proportional current driver
  | .within => current

/-- What the loads of a tier ask for. -/
structure Demand (α : Type) where
  /-- The mean load. -/
  composite : α
  /-- The band. -/
  band : Band α
  /-- Where the driver lies. -/
  side : Side
  /-- The count that is asked for. -/
  raw : UInt32

/-- What the loads of a tier ask for, if any metric is scored. -/
def Loads.demand? (l : Loads α) (e : EngineSettings) (current : UInt32) : Option (Demand α) :=
  l.composite.map fun composite =>
    let band := Band.around (Scalar.ofFloat e.tolerance)
    let driver := e.trigger.driver l composite
    let side := band.side l.isComplete driver
    ⟨composite, band, side, side.rawTarget current driver⟩

/-- The count that the loads of a tier ask for within its bounds. Without
a scored metric the live count is only moved into the bounds. -/
def Loads.target (l : Loads α) (e : EngineSettings) (t : TierSettings) (current : UInt32) :
    UInt32 :=
  match l.demand? e current with
  | some d => t.clamp d.raw
  | none => t.clamp current

end ClusterScaling
