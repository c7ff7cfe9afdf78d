import Mathlib.Logic.ExistsUnique
import ClusterScaling.Proofs.Cycle.Landing
import ClusterScaling.Proposal

/-!
# What a reason says about the band

The reason of a proposal begins with a position: above the band, within it
or below it. The words are not chosen by the side on which the driver lies,
although the numbers of the band and of the loads follow, but by the
direction of the action, and that is looked up after the count asked for
has been moved into the bounds. So they describe the move
(`Proposal.places_iff`).

As a description of the load they are right exactly if the move goes in
the direction that the side asks for (`Proposal.places_side_iff`). They are
wrong in three kinds of cases. The bounds may cancel a move: a tier at its
greatest count is never put above the band, whatever its load is
(`Proposal.not_places_of_bound`). They may turn one around or make one up,
if the live count is outside of them. And rounding may cancel a move
within the bounds: a tier of one replica at half the load that it should
have is put within the band too.
-/

namespace ClusterScaling

/-- The direction in which a tier is to move that is on a side of the band. -/
def Side.direction : Side → Action
  | .above => .scaleUp
  | .within => .hold
  | .below => .scaleDown

/-- The reason of a decision puts the tier on a side of the band. -/
def Decision.Places (d : Decision) (s : Side) : Prop :=
  ∃ rest, d.reason = Proposal.verdict s.direction ++ rest

namespace Proposal

/-- The words for an action are told apart by how a text begins. -/
theorem verdict_inj {a b : Action} {x y : String} (h : verdict a ++ x = verdict b ++ y) :
    a = b := by
  have hletter (a : Action) (x : String) :
      (verdict a ++ x).toList.head? = (verdict a).toList.head? := by
    have hsome : (verdict a).toList.head?.isSome = true := by cases a <;> rfl
    rw [String.toList_append, List.head?_append, Option.or_of_isSome hsome]
  have hsame : (verdict a).toList.head? = (verdict b).toList.head? := by
    rw [← hletter a x, ← hletter b y, h]
  revert hsame
  cases a <;> cases b <;> decide

/-- What loads ask for that have a mean. -/
theorem demand?_of_composite {l : Loads Float} {c : Float} (hscored : l.composite = some c)
    (e : EngineSettings) (current : UInt32) :
    let driver := e.trigger.driver l c
    let side := (Band.around e.tolerance).side l.isComplete driver
    l.demand? e current = some ⟨c, .around e.tolerance, side, side.rawTarget current driver⟩ := by
  intro driver side
  unfold Loads.demand?
  rw [hscored]
  rfl

section

variable {e : EngineSettings} {t : TierSettings} {current : UInt32} {r : Readings} {h : History}
  {now : UInt64} (hcool : e.isCooling h now = false) {m : Demand Float}
  (hdemand : (Loads.ofReadings Float t.metrics r).demand? e current = some m)

include hcool hdemand

/-- A tier that has something to ask for gets it within its bounds. -/
theorem target_of_demand : (propose e t current r h now).target = t.clamp m.raw := by
  rw [propose, hcool, if_neg Bool.false_ne_true, target_ofLoads, Loads.target, hdemand]

/-- **A reason puts a tier on the side that asks for the move which is made.** -/
theorem places_iff (s : Side) : (propose e t current r h now).Places s
    ↔ s.direction = .between current (t.clamp m.raw) := by
  have htarget : (Loads.ofReadings Float t.metrics r).target e t current = t.clamp m.raw := by
    rw [Loads.target, hdemand]
  rw [propose, hcool, if_neg Bool.false_ne_true]
  unfold Decision.Places ofLoads reason bandText
  rw [hdemand, htarget]
  simp only [String.append_assoc]
  constructor
  · intro hsaid
    obtain ⟨_, hrest⟩ := hsaid
    exact (verdict_inj hrest).symm
  · intro hdirection
    exact ⟨_, by rw [hdirection]⟩

/-- A tier is put on one side and no other. -/
theorem existsUnique_places : ∃! s, (propose e t current r h now).Places s := by
  simp only [places_iff hcool hdemand]
  cases Action.between current (t.clamp m.raw) with
  | scaleUp => exact ⟨.above, rfl, fun s hs => by cases s <;> first | rfl | cases hs⟩
  | scaleDown => exact ⟨.below, rfl, fun s hs => by cases s <;> first | rfl | cases hs⟩
  | hold => exact ⟨.within, rfl, fun s hs => by cases s <;> first | rfl | cases hs⟩

/-- **A tier that cannot grow is never put above the band**, whatever its load is, and one that
cannot shrink is never put below it. -/
theorem not_places_of_bound (horder : t.least ≤ t.most) :
    (t.most ≤ current → ¬ (propose e t current r h now).Places .above)
      ∧ (current ≤ t.least → ¬ (propose e t current r h now).Places .below) := by
  obtain ⟨hleast, hmost⟩ := TierSettings.clamp_mem horder m.raw
  rw [places_iff hcool hdemand, places_iff hcool hdemand]
  refine ⟨fun hbound habove => ?_, fun hbound hbelow => ?_⟩
  · exact UInt32.not_lt.mpr (UInt32.le_trans hmost hbound)
      (Action.between_eq_scaleUp.mp habove.symm)
  · exact UInt32.not_lt.mpr (UInt32.le_trans hbound hleast)
      (Action.between_eq_scaleDown.mp hbelow.symm)

end

/-- **Where the reason puts a tier, and when that is the truth.** While a tier does not cool down
and some metric is scored, the reason puts it on one side of the band. That is the side on which
the driver of the trigger policy lies exactly if the driver is above the band and the tier grows,
or within it and the live count is within the bounds, or below it and the tier shrinks. -/
theorem places_side_iff {e : EngineSettings} {t : TierSettings} {current : UInt32} {r : Readings}
    {h : History} {now : UInt64} (hcool : e.isCooling h now = false) {c : Float}
    (hscored : (Loads.ofReadings Float t.metrics r).composite = some c) :
    let loads := Loads.ofReadings Float t.metrics r
    let driver := e.trigger.driver loads c
    let side := (Band.around e.tolerance).side loads.isComplete driver
    let target := t.clamp (side.rawTarget current driver)
    let d := propose e t current r h now
    d.target = target ∧ (∃! s, d.Places s)
      ∧ (d.Places side ↔ match side with
        | .above => current < target
        | .within => t.least ≤ current ∧ current ≤ t.most
        | .below => target < current) := by
  intro loads driver side target d
  have hdemand := demand?_of_composite hscored e current
  refine ⟨target_of_demand hcool hdemand, existsUnique_places hcool hdemand, ?_⟩
  rw [places_iff hcool hdemand]
  show side.direction = .between current target ↔ _
  cases hside : side with
  | above => exact eq_comm.trans Action.between_eq_scaleUp
  | below => exact eq_comm.trans Action.between_eq_scaleDown
  | within =>
    have hstay : target = t.clamp current := by
      show t.clamp (side.rawTarget current driver) = _
      rw [hside]
      rfl
    rw [hstay]
    exact (eq_comm.trans Action.between_eq_hold).trans TierSettings.clamp_eq_self_iff

/-- A tier of one to nine replicas that is scaled on its processors. -/
def cpuTier : TierSettings := ⟨1, 9, [.ofKind .cpu "70"], .usual⟩

/-- Readings at which the tier has twice the load that it should have. -/
def twice : Readings := { Readings.absent with cpu := .ofLive 140.0 }

theorem composite_twice : (Loads.ofReadings Float cpuTier.metrics twice).composite = some 2.0 := by
  with_unfolding_all rfl

/-- The driver of the tier is above the band. -/
theorem side_twice : let loads := Loads.ofReadings Float cpuTier.metrics twice
    (Band.around EngineSettings.usual.tolerance).side loads.isComplete
      (EngineSettings.usual.trigger.driver loads 2.0) = .above := by
  decide +kernel

/-- At twice its load the tier grows from four replicas to eight and is put above the band. -/
theorem places_side_iff_four :
    let d := propose .usual cpuTier 4 twice (.empty 64) 0
    EngineSettings.usual.isCooling (.empty 64) 0 = false
      ∧ (Loads.ofReadings Float cpuTier.metrics twice).composite = some 2.0
      ∧ d.target = 8 ∧ (∃! s, d.Places s) ∧ d.Places .above := by
  intro d
  have hcool : EngineSettings.usual.isCooling (.empty 64) 0 = false := rfl
  obtain ⟨htarget, hunique, hplaces⟩ :=
    @places_side_iff .usual cpuTier 4 twice (.empty 64) 0 hcool 2.0 composite_twice
  rw [side_twice] at htarget hplaces
  exact ⟨hcool, composite_twice, htarget.trans (by decide +kernel), hunique,
    hplaces.mpr (by decide +kernel)⟩

/-- **Positions that are not the real one.** At twice its load the tier is above the band. It is put
within it if it has nine replicas, the most it may have, and below it if it has more than that. -/
theorem misplaced_at_most :
    let loads := Loads.ofReadings Float cpuTier.metrics twice
    let d (current : UInt32) := propose .usual cpuTier current twice (.empty 64) 0
    EngineSettings.usual.isCooling (.empty 64) 0 = false ∧ loads.composite = some 2.0
      ∧ (Band.around EngineSettings.usual.tolerance).side loads.isComplete
          (EngineSettings.usual.trigger.driver loads 2.0) = .above
      ∧ (d 9).Places .within ∧ ¬ (d 9).Places .above
      ∧ (d 12).Places .below ∧ ¬ (d 12).Places .above := by
  intro loads d
  have hcool : EngineSettings.usual.isCooling (.empty 64) 0 = false := rfl
  have hdemand := demand?_of_composite composite_twice .usual
  have hgrown (current : UInt32) (hmost : 9 ≤ current) : ¬ (d current).Places .above :=
    (not_places_of_bound hcool (hdemand current) (by decide)).1 hmost
  refine ⟨hcool, composite_twice, side_twice, ?_, hgrown 9 (by decide), ?_, hgrown 12 (by decide)⟩
  · exact (places_iff hcool (hdemand 9) .within).mpr (by decide +kernel)
  · exact (places_iff hcool (hdemand 12) .below).mpr (by decide +kernel)

end Proposal

end ClusterScaling
