import ClusterScaling.Tier

/-!
# Decisions

A decision names the count of replicas that a tier should have, with the
reason, how sure the decider is, and when it was taken. Its action is
never stored on its own authority: it is the direction in which the
target lies from the live count, `Action.between`. What is remembered of
a decision once it is committed is a `Move`.
-/

namespace ClusterScaling

open Document

/-- The direction of a decision. -/
inductive Action where
  /-- More replicas. -/
  | scaleUp
  /-- Fewer replicas. -/
  | scaleDown
  /-- As many replicas as there are. -/
  | hold
  deriving DecidableEq, Repr

namespace Action

/-- Every action, in the order in which errors and samples list them. -/
def all : List Action := [scaleUp, scaleDown, hold]

/-- The name of an action. -/
def name : Action → String
  | scaleUp => "scale_up"
  | scaleDown => "scale_down"
  | hold => "none"

/-- An action, by its name. -/
def decode : Document → Decoded Action := asVariant all name

/-- The direction from a count to another one. -/
def between (current target : UInt32) : Action :=
  if current < target then scaleUp else if target < current then scaleDown else hold

/-- The other direction. -/
def opposite : Action → Action
  | scaleUp => scaleDown
  | scaleDown => scaleUp
  | hold => hold

@[simp]
theorem opposite_opposite (a : Action) : a.opposite.opposite = a := by cases a <;> rfl

@[simp]
theorem between_self (n : UInt32) : between n n = hold := by
  simp [between, UInt32.lt_irrefl]

theorem between_eq_scaleUp {current target : UInt32} :
    between current target = .scaleUp ↔ current < target := by
  unfold between
  split
  · next hlt => exact iff_of_true rfl hlt
  · next hle => split <;> exact iff_of_false nofun hle

theorem between_eq_scaleDown {current target : UInt32} :
    between current target = .scaleDown ↔ target < current := by
  unfold between
  split
  · next hlt => exact iff_of_false nofun (UInt32.lt_asymm hlt)
  · split
    · next hlt => exact iff_of_true rfl hlt
    · next hle => exact iff_of_false nofun hle

/-- To hold a tier is to keep its live count. -/
theorem between_eq_hold {current target : UInt32} :
    between current target = .hold ↔ target = current := by
  constructor
  · intro hhold
    refine UInt32.le_antisymm (UInt32.not_lt.mp fun hlt => ?_) (UInt32.not_lt.mp fun hlt => ?_)
    · cases hhold.symm.trans (between_eq_scaleUp.mpr hlt)
    · cases hhold.symm.trans (between_eq_scaleDown.mpr hlt)
  · rintro rfl
    exact between_self _

/-- A direction leads to another count. -/
theorem ne_of_between {current target : UInt32} {d : Action} (hd : d ≠ .hold)
    (hdirection : between current target = d) : current ≠ target := by
  rintro rfl
  rw [between_self] at hdirection
  exact hd hdirection.symm

/-- A direction that is not down for a target is not down for a greater one. -/
theorem between_ne_scaleDown_of_le {current a b : UInt32} (hle : a ≤ b)
    (ha : between current a ≠ .scaleDown) : between current b ≠ .scaleDown := fun hb =>
  ha (between_eq_scaleDown.mpr (UInt32.lt_of_le_of_lt hle (between_eq_scaleDown.mp hb)))

end Action

/-- What a tier should do. -/
structure Decision where
  /-- The direction of the decision. -/
  action : Action
  /-- The count of replicas that the tier should have. -/
  target : UInt32
  /-- Why. -/
  reason : String
  /-- How sure the decider is, from zero to one. -/
  confidence : Float
  /-- When the decision was taken, in milliseconds of the wall clock. -/
  timestamp : UInt64

namespace Decision

/-- The decision to stay at a count, which nobody needs to be sure of. -/
def stay (current : UInt32) (reason : String) (now : UInt64) : Decision :=
  ⟨.hold, current, reason, 0.0, now⟩

/-- Whether a decision asks for a change. -/
def isChange (d : Decision) : Bool := d.action != .hold

/-- A decision in a document. -/
def decode (d : Document) : Decoded Decision := do
  let r ← Record.ofDocument ["action", "target_replicas", "reason", "confidence", "timestamp"] d
  let action ← r.read "action" Action.decode
  let target ← r.read "target_replicas" asCount
  let reason ← r.read "reason" asText
  let confidence ← r.read "confidence" asReal
  let timestamp ← r.read "timestamp" asWide
  let action ← r.required "action" action
  let target ← r.required "target_replicas" target
  let reason ← r.required "reason" reason
  pure ⟨action, target, reason, ← r.required "confidence" confidence,
    ← r.required "timestamp" timestamp⟩

/-- A decision as a document. -/
def encode (d : Decision) : Document :=
  mapping [("action", text d.action.name), ("target_replicas", ofCount d.target),
    ("reason", text d.reason), ("confidence", real d.confidence),
    ("timestamp", ofWide d.timestamp)]

end Decision

/-- What is remembered of a committed decision. -/
structure Move where
  /-- The direction of the decision. -/
  action : Action
  /-- The live count before the decision. -/
  before : UInt32
  /-- The count that was decided. -/
  after : UInt32
  /-- When the decision was taken. -/
  timestamp : UInt64
  deriving DecidableEq

namespace Move

/-- What is remembered of a decision taken at a live count. -/
def ofDecision (current : UInt32) (d : Decision) : Move :=
  ⟨d.action, current, d.target, d.timestamp⟩

/-- How many replicas the decision moved. -/
def magnitude (m : Move) : Nat :=
  ((m.before.toNat : Int) - m.after.toNat).natAbs

/-- Whether the decision was a change. -/
def isChange (m : Move) : Bool := m.action != .hold

/-- A move in a document. -/
def decode (d : Document) : Decoded Move := do
  let r ← Record.ofDocument ["action", "from_replicas", "to_replicas", "timestamp"] d
  let action ← r.read "action" Action.decode
  let before ← r.read "from_replicas" asCount
  let after ← r.read "to_replicas" asCount
  let timestamp ← r.read "timestamp" asWide
  let action ← r.required "action" action
  let before ← r.required "from_replicas" before
  let after ← r.required "to_replicas" after
  pure ⟨action, before, after, ← r.required "timestamp" timestamp⟩

/-- A move as a document. -/
def encode (m : Move) : Document :=
  mapping [("action", text m.action.name), ("from_replicas", ofCount m.before),
    ("to_replicas", ofCount m.after), ("timestamp", ofWide m.timestamp)]

end Move

end ClusterScaling
