import ClusterScaling.Cycle

/-!
# What every cycle makes of a tier

However a cycle comes to decide about a tier, three things hold of the
decision: it is taken as of the time of the cycle, its action is the
direction in which its target lies from the live count, and if there were
readings its target is where the stages of the tier lead from the proposal
that won. Statements about one tier start from here.
-/

namespace ClusterScaling

namespace Cycle

variable (s : Settings) (cluster : String) (live : LiveState) (h : ClusterHistory) (now : UInt64)
variable (t : Tier)

/-- The result of a cycle names its cluster. -/
@[simp]
theorem cluster_outcome (told : Told) : (outcome s cluster live h now told).cluster = cluster := by
  cases told <;> rfl

/-- A cycle decides as of its time. -/
theorem timestamp_outcome (told : Told) :
    ((outcome s cluster live h now told).tiers.get t).decision.timestamp = now := by
  cases told <;> cases t <;> rfl

/-- **A cycle moves a tier in the direction of its target**, and to hold a tier is to keep its
live count. -/
theorem action_outcome (told : Told) :
    ((outcome s cluster live h now told).tiers.get t).decision.action
      = .between (live.replicas.get t)
          ((outcome s cluster live h now told).tiers.get t).decision.target := by
  cases told with
  | cancelled => cases t <;> exact (Action.between_self _).symm
  | unavailable fault => cases t <;> exact (Action.between_self _).symm
  | readings snapshot offered => cases t <;> rfl

/-- With readings, a tier ends where its stages lead from whichever proposal wins. -/
theorem staged_of_readings (snapshot : Snapshot) (offered : Option Advice) :
    ∃ candidate,
      ((outcome s cluster live h now (.readings snapshot offered)).tiers.get t).decision.target
          = (stage s live t candidate (s.engine.isCooling (h.get t) now) (h.get t) now).target
        ∧ ((outcome s cluster live h now (.readings snapshot offered)).tiers.get t).verdict
          = (stage s live t candidate (s.engine.isCooling (h.get t) now) (h.get t)
            now).verdict := by
  cases t with
  | primaries => exact ⟨_, rfl, rfl⟩
  | secondaries => exact ⟨_, rfl, rfl⟩

/-- With readings, the outcome is decided with the advice if the adviser has to be asked, and
without any otherwise. -/
theorem outcome_readings {asks : Bool} {snapshot : Snapshot}
    (hasks : asksAdviser s (draft s live snapshot h now) = asks) (offered : Option Advice) :
    outcome s cluster live h now (.readings snapshot offered)
      = decide s cluster live snapshot (draft s live snapshot h now)
          (if asks then offered else none) h now := by
  rw [← hasks]
  rfl

/-- **A preferred adviser is followed**: if the tier does not cool down, its stages start from
the count that the adviser names for it, moved into the bounds. -/
theorem target_of_advice {a : AdviserSettings} (hadviser : s.adviser = some a)
    (henabled : a.enabled = true) (hprefer : s.engine.arbitration = .preferWebhook)
    (hcool : s.engine.isCooling (h.get t) now = false) (advice : Advice) {n : UInt32}
    (hn : advice.targets.get t = some n) (snapshot : Snapshot) :
    ((outcome s cluster live h now (.readings snapshot (some advice))).tiers.get t).decision.target
      = (stage s live t ((s.tiers.get t).clamp n) false (h.get t) now).target := by
  have hdraft : ((draft s live snapshot h now).get t).cooling = false := by
    unfold draft
    rw [PerTier.get_ofFun]
    exact hcool
  have hasks : asksAdviser s (draft s live snapshot h now) = true := by
    have hsome : (Tier.all.any fun t => !((draft s live snapshot h now).get t).cooling) = true :=
      List.any_eq_true.mpr ⟨t, Tier.mem_all t, by rw [hdraft]; rfl⟩
    unfold asksAdviser
    rw [hsome, hadviser, Option.any_some, henabled]
    rfl
  rw [outcome_readings s cluster live h now hasks, if_pos rfl, decide, PerTier.get_ofFun]
  unfold decideTier choose Advice.proposal?
  dsimp only [Option.bind_some]
  rw [hdraft, hn, hprefer]
  rfl

end Cycle

end ClusterScaling
