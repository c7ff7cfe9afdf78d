import ClusterScaling.Band
import ClusterScaling.Decimal.Fixed
import ClusterScaling.History

/-!
# The proposal of the engine

The engine proposes a decision for a tier from its loads alone; it knows
no quorum and no limit on steps. While the tier cools down from its last
change, the proposal is to stay. Otherwise the target is what the loads
ask for within the bounds, and the confidence grows with the distance of
the mean load from one and with the part of the metrics that is scored.

The reason names the numbers that led to the proposal. Its verdict is
read off the action, so a tier that is already at its bound is reported
within the band.
-/

namespace ClusterScaling

/-- What is left of the cooldown after the last change, if anything is. -/
def EngineSettings.coolingLeft? (e : EngineSettings) (h : History) (now : UInt64) :
    Option Duration :=
  match h.lastChange with
  | none => none
  | some last =>
    let elapsed := (now.toNat - last.toNat) * 1000000
    if elapsed < e.cooldown.nanos then
      some ⟨e.cooldown.nanos - elapsed, Nat.lt_of_le_of_lt (Nat.sub_le _ _) e.cooldown.bounded⟩
    else none

/-- Whether a tier cools down. -/
def EngineSettings.isCooling (e : EngineSettings) (h : History) (now : UInt64) : Bool :=
  (e.coolingLeft? h now).isSome

/-- The lesser of a number and one; what is no number counts as one. -/
def atMostOne (x : Float) : Float := if x < 1.0 then x else 1.0

/-- How far the mean load is from one, in units of the scale of severity. -/
def severity (composite scale : Float) : Float := atMostOne ((composite - 1.0).abs / scale)

namespace Proposal

/-- The words for an action. -/
def verdict : Action → String
  | .scaleUp => "above band"
  | .scaleDown => "below band"
  | .hold => "within band"

/-- The loads, in the words of a reason. -/
def loadsText (loads : Loads Float) : String :=
  String.intercalate ", " (loads.scored.map fun l => l.label ++ " " ++ Decimal.fixed 3 l.ratio)

/-- The verdict, the band and the loads. -/
def bandText (loads : Loads Float) (d : Demand Float) (a : Action) : String :=
  verdict a ++ " [" ++ Decimal.fixed 2 d.band.lower ++ ", " ++ Decimal.fixed 2 d.band.upper ++
    "]: composite " ++ Decimal.fixed 3 d.composite ++ " (" ++ loadsText loads ++ ")"

/-- The bounds of a tier, in the words of a reason. -/
def boundsText (t : TierSettings) : String :=
  "clamped to [" ++ toString t.least.toNat ++ ", " ++ toString t.most.toNat ++ "]"

/-- The metrics that are not scored, in the words of a reason. -/
def skippedText (loads : Loads Float) : String :=
  String.intercalate ", " (loads.skipped.map fun s => s.1 ++ " (" ++ s.2.message ++ ")")

/-- The whole reason. -/
def reason (loads : Loads Float) (d : Demand Float) (t : TierSettings) (a : Action)
    (target : UInt32) : String :=
  bandText loads d a ++
    (if d.raw = target then ""
      else "; raw target " ++ toString d.raw.toNat ++ " " ++ boundsText t) ++
    (if loads.skipped.isEmpty then "" else "; skipped " ++ skippedText loads)

/-- The proposal of a tier that cools down. -/
def cooling (current : UInt32) (now : UInt64) : Decision :=
  .stay current "cooldown active" now

/-- The proposal of a tier that does not cool down. -/
def ofLoads (e : EngineSettings) (t : TierSettings) (current : UInt32) (loads : Loads Float)
    (now : UInt64) : Decision :=
  let target := loads.target e t current
  let action := Action.between current target
  match loads.demand? e current with
  | none => { Decision.stay current "no scoreable metrics" now with target, action }
  | some d =>
    { action
      target
      reason := reason loads d t action target
      confidence := unitClamp (loads.availability * severity d.composite e.severityScale)
      timestamp := now }

/-- The proposal for a tier. -/
def propose (e : EngineSettings) (t : TierSettings) (current : UInt32) (r : Readings)
    (h : History) (now : UInt64) : Decision :=
  if e.isCooling h now then cooling current now
  else ofLoads e t current (Loads.ofReadings Float t.metrics r) now

/-- The proposal for a tier whose bounds may be out of order. There is
none if the tier would have to be moved into them. -/
def propose? (e : EngineSettings) (t : TierSettings) (current : UInt32) (r : Readings)
    (h : History) (now : UInt64) : Option Decision :=
  if e.isCooling h now || t.least ≤ t.most then some (propose e t current r h now) else none

/-- The target is what the loads ask for, whether any metric is scored or not. -/
@[simp]
theorem target_ofLoads (e : EngineSettings) (t : TierSettings) (current : UInt32)
    (loads : Loads Float) (now : UInt64) :
    (ofLoads e t current loads now).target = loads.target e t current := by
  unfold ofLoads
  cases loads.demand? e current <;> rfl

/-- The action leads from the live count to the target. -/
@[simp]
theorem action_ofLoads (e : EngineSettings) (t : TierSettings) (current : UInt32)
    (loads : Loads Float) (now : UInt64) :
    (ofLoads e t current loads now).action = .between current (loads.target e t current) := by
  unfold ofLoads
  cases loads.demand? e current <;> rfl

theorem propose_of_cooling {e : EngineSettings} {h : History} {now : UInt64}
    (cool : e.isCooling h now = true) (t : TierSettings) (current : UInt32) (r : Readings) :
    propose e t current r h now = cooling current now := by
  rw [propose, if_pos cool]

end Proposal

end ClusterScaling
