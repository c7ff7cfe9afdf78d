import ClusterScaling.Proofs.Cycle.Stages
import ClusterScaling.Proofs.StepLimit.Direction

/-!
# A window closes a direction to the secondaries

The target of the secondaries is a step from the live count, cut down by
the rules of its direction and then moved into the bounds. From a live
count within the bounds the last of these changes nothing about the
direction, so if a window closes one direction, no cycle moves the tier
that way: a step in that direction has no length, and a step in the other
direction is not turned round. The primaries have no such law, since the
guard that comes after their rules may move an even count either way.
-/

namespace ClusterScaling

namespace TierSettings

variable {t : TierSettings} {n current : UInt32}

/-- A count that is not greater than one within the bounds does not become greater by being moved
into them. -/
theorem clamp_le (hleast : t.least ≤ current) (hn : n ≤ current) : t.clamp n ≤ current := by
  unfold clamp
  split
  · exact hleast
  · split
    · next hmost => exact UInt32.le_trans (UInt32.le_of_lt hmost) hn
    · exact hn

/-- A count that is not less than one within the bounds does not become less by being moved into
them. -/
theorem le_clamp (hmost : current ≤ t.most) (hn : current ≤ n) : current ≤ t.clamp n := by
  unfold clamp
  split
  · next hleast => exact UInt32.le_trans hn (UInt32.le_of_lt hleast)
  · split
    · exact hmost
    · exact hn

/-- **Bounds leave a count as it is exactly if it is within them.** -/
theorem clamp_eq_self_iff : t.clamp n = n ↔ t.least ≤ n ∧ n ≤ t.most := by
  constructor
  · intro hself
    rw [← hself]
    unfold clamp at hself ⊢
    split at hself
    · next hlt => exact absurd hself (UInt32.ne_of_lt hlt).symm
    · split at hself
      · next hlt => exact absurd hself (UInt32.ne_of_lt hlt)
      · next hleast hmost =>
        rw [if_neg hleast, if_neg hmost]
        exact ⟨UInt32.not_lt.mp hleast, UInt32.not_lt.mp hmost⟩
  · rintro ⟨hleast, hmost⟩
    unfold clamp
    rw [if_neg (UInt32.not_lt.mpr hleast), if_neg (UInt32.not_lt.mpr hmost)]

end TierSettings

/-- A live count is within the bounds of the secondaries. -/
def Settings.Bounds (s : Settings) (live : LiveState) : Prop :=
  s.tiers.secondaries.least ≤ live.replicas.secondaries
    ∧ live.replicas.secondaries ≤ s.tiers.secondaries.most

instance (s : Settings) (live : LiveState) : Decidable (s.Bounds live) :=
  inferInstanceAs (Decidable (_ ∧ _))

namespace Cycle

variable {s : Settings} {live : LiveState} {h : History} {now : UInt64}

/-- Secondaries that are asked to stay are still moved into their bounds. -/
theorem stageSecondaries_self (current : UInt32) :
    (stageSecondaries s current current h now).target = s.tiers.secondaries.clamp current := by
  unfold stageSecondaries
  simp only [Int.sub_self, Stepping.limit_zero, stepped_zero]

/-- Secondaries to which the way up is closed are not more in the end. -/
theorem stageSecondaries_le (hlive : s.Bounds live)
    (hrecent : s.tiers.secondaries.stepping.up.recentOpposite? .scaleUp h now ≠ none)
    (candidate : UInt32) :
    (stageSecondaries s live.replicas.secondaries candidate h now).target
      ≤ live.replicas.secondaries := by
  refine TierSettings.clamp_le hlive.1 (stepped_le _ ?_)
  by_cases hpos : 0 < (candidate.toNat : Int) - live.replicas.secondaries.toNat
  · refine Int.le_of_eq ?_
    rw [Stepping.limit_of_pos _ _ _ _ hpos, StepRules.delta_limit_of_recent hrecent]
  · exact ((Stepping.limit_shortens _ _ _ _ _).2 (Int.not_lt.mp hpos)).2

/-- Secondaries to which the way down is closed are not fewer in the end. -/
theorem le_stageSecondaries (hlive : s.Bounds live)
    (hrecent : s.tiers.secondaries.stepping.down.recentOpposite? .scaleDown h now ≠ none)
    (candidate : UInt32) :
    live.replicas.secondaries
      ≤ (stageSecondaries s live.replicas.secondaries candidate h now).target := by
  refine TierSettings.le_clamp hlive.2 (le_stepped _ ?_)
  by_cases hneg : (candidate.toNat : Int) - live.replicas.secondaries.toNat < 0
  · refine Int.le_of_eq ?_
    rw [Stepping.limit_of_neg _ _ _ _ hneg, StepRules.delta_limit_of_recent hrecent]
  · exact ((Stepping.limit_shortens _ _ _ _ _).1 (Int.not_lt.mp hneg)).1

/-- **A cycle does not move the secondaries in a direction that a window closes.** -/
theorem action_ne_of_recent {hs : ClusterHistory} (hlive : s.Bounds live) {d : Action}
    (hd : d ≠ .hold)
    (hrecent : (s.tiers.secondaries.stepping.rules d).recentOpposite? d
      (hs.get .secondaries) now ≠ none)
    (cluster : String) (told : Told) :
    ((outcome s cluster live hs now told).tiers.get .secondaries).decision.action ≠ d := by
  cases told with
  | cancelled => exact hd.symm
  | unavailable fault => exact hd.symm
  | readings snapshot offered =>
    obtain ⟨candidate, htarget, -⟩ :=
      staged_of_readings s cluster live hs now .secondaries snapshot offered
    rw [action_outcome, htarget]
    cases d with
    | hold => exact absurd rfl hd
    | scaleUp =>
      rw [Ne, Action.between_eq_scaleUp, UInt32.not_lt]
      exact stageSecondaries_le hlive hrecent candidate
    | scaleDown =>
      rw [Ne, Action.between_eq_scaleDown, UInt32.not_lt]
      exact le_stageSecondaries hlive hrecent candidate

end Cycle

end ClusterScaling
