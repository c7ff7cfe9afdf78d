import ClusterScaling.Proofs.Cycle.Landing
import ClusterScaling.Proofs.Series.Cooldown
import Mathlib.Data.List.Chain

/-!
# Outside its bounds a tier does not rest

A tier that cools down is proposed to stay, and the primaries do. The
secondaries pass one more stage after the proposal, their bounds, and this
does not ask whether the tier cools down. So they stay exactly if their
live count is within the bounds (`Cycle.cooling_secondaries_hold_iff`).
Otherwise they are moved, with the words of a cooldown for a reason.

Such a move is remembered like any other change, so the cooldown begins
again with it. As long as the live count is outside the bounds and cycles
come no further apart than a cooldown, the tier is told in every cycle to
stay and moved in every cycle, and no cycle looks at its loads or listens
to advice (`Series.moves_outside`).
-/

namespace ClusterScaling

namespace Cycle

variable {s : Settings} {live : LiveState} {h : ClusterHistory} {now : UInt64}

/-- **Secondaries that cool down are moved into their bounds**, whatever is read and advised. -/
theorem target_of_cooling (cluster : String)
    (hcool : s.engine.isCooling (h.get .secondaries) now = true) (snapshot : Snapshot)
    (offered : Option Advice) :
    ((outcome s cluster live h now (.readings snapshot offered)).tiers.get
        .secondaries).decision.target
      = s.tiers.secondaries.clamp live.replicas.secondaries := by
  have hrests := rests_of_cooling s cluster live h now hcool snapshot offered
  -- the stages start from the proposal of the engine, which is to stay
  have hstart : ((outcome s cluster live h now (.readings snapshot offered)).tiers.get
      .secondaries).start s.tiers.secondaries = live.replicas.secondaries := by
    unfold TierOutcome.start
    rw [hrests.proposer_eq]
    exact hrests.internal_target
  rw [secondaries_of_readings, hstart, stageSecondaries_self]

/-- Secondaries that cool down are held exactly if their live count is within the bounds. -/
theorem hold_iff_of_cooling (cluster : String)
    (hcool : s.engine.isCooling (h.get .secondaries) now = true) (snapshot : Snapshot)
    (offered : Option Advice) :
    ((outcome s cluster live h now (.readings snapshot offered)).tiers.get
        .secondaries).decision.action = .hold ↔ s.Bounds live := by
  rw [action_outcome, Action.between_eq_hold, target_of_cooling cluster hcool]
  exact TierSettings.clamp_eq_self_iff

/-- **A cooldown holds the secondaries exactly if their live count is within the bounds.** If it is
not, they are moved to the nearest count that is. -/
theorem cooling_secondaries_hold_iff (cluster : String)
    (hcool : s.engine.isCooling (h.get .secondaries) now = true) (snapshot : Snapshot)
    (offered : Option Advice) :
    let d := ((outcome s cluster live h now (.readings snapshot offered)).tiers.get
      .secondaries).decision
    d.target = s.tiers.secondaries.clamp live.replicas.secondaries
      ∧ (d.action = .hold ∧ d.target = live.replicas.secondaries ↔ s.Bounds live) := by
  intro d
  have htarget : d.target = s.tiers.secondaries.clamp live.replicas.secondaries :=
    target_of_cooling cluster hcool snapshot offered
  have hhold : d.action = .hold ↔ s.Bounds live :=
    hold_iff_of_cooling cluster hcool snapshot offered
  refine ⟨htarget, fun h => hhold.mp h.1, fun hbounds => ⟨hhold.mpr hbounds, ?_⟩⟩
  rw [htarget]
  exact TierSettings.clamp_eq_self_iff.mpr hbounds

/-- A minute after two secondaries have become four, these four are overloaded again. Four is within
the bounds, so they are held. -/
theorem cooling_secondaries_hold_iff_overloaded :
    let s := Settings.onCpu (.ofSeconds 300)
    let h := Series.after s "db/main" (.empty 64) [Round.loaded 140.0 2 2000000]
    let d := (((Round.loaded 140.0 4 2060000).outcome s "db/main" h).tiers.get .secondaries).decision
    s.check = .ok () ∧ s.engine.isCooling (h.get .secondaries) 2060000 = true
      ∧ d.action = .hold ∧ d.target = 4 := by
  intro s h d
  have hcheck : (Settings.onCpu (.ofSeconds 300)).check = .ok () := rfl
  have hcool : s.engine.isCooling (h.get .secondaries) 2060000 = true := by decide +kernel
  have hholds : d.action = .hold ∧ d.target = 4 :=
    (cooling_secondaries_hold_iff "db/main" hcool _ none).2.mpr (by decide)
  exact ⟨hcheck, hcool, hholds⟩

/-- **Twelve secondaries do not wait for the end of a cooldown.** A minute after a change twelve are
found where nine are the most. The engine proposes to stay, as the tier cools down, and this is the
reason that is given for making them nine. With this change the cooldown begins again: it goes on
after the five minutes that the first change gave it. -/
theorem cooling_secondaries_moved :
    let s := Settings.onCpu (.ofSeconds 300)
    let before := [Round.loaded 140.0 2 2000000]
    let h := Series.after s "db/main" (.empty 64) before
    let found := Round.loaded 140.0 12 2060000
    let o := (found.outcome s "db/main" h).tiers.get .secondaries
    let h' := Series.after s "db/main" (.empty 64) (before ++ [found])
    s.check = .ok () ∧ s.engine.isCooling (h.get .secondaries) found.now = true
      ∧ o.internal.action = .hold
      ∧ ¬ (o.decision.action = .hold ∧ o.decision.target = found.live.replicas.secondaries)
      ∧ o.decision.action = .scaleDown ∧ o.decision.target = 9
      ∧ o.decision.reason = "cooldown active"
      ∧ s.engine.isCooling (h.get .secondaries) 2300000 = false
      ∧ s.engine.isCooling (h'.get .secondaries) 2300000 = true := by
  refine ⟨rfl, by decide +kernel, by decide +kernel, ?_, by decide +kernel, by decide +kernel,
    by decide +kernel, by decide +kernel, by decide +kernel⟩
  rintro ⟨-, htarget⟩
  revert htarget
  decide +kernel

end Cycle

/-- A cycle that has readings of secondaries outside their bounds. -/
def Round.Outside (s : Settings) (r : Round) : Prop :=
  (∃ snapshot offered, r.told = .readings snapshot offered) ∧ ¬ s.Bounds r.live

variable {s : Settings} {h : ClusterHistory}

/-- **A cycle that finds the secondaries cooling down and outside their bounds moves them**, although
the engine proposes to stay. -/
theorem Round.Outside.isChange {r : Round} (houtside : r.Outside s) (cluster : String)
    (hcool : s.engine.isCooling (h.get .secondaries) r.now = true) :
    ((r.outcome s cluster h).tiers.get .secondaries).internal.action = .hold
      ∧ ((r.outcome s cluster h).tiers.get .secondaries).decision.isChange = true := by
  obtain ⟨live, now, told⟩ := r
  obtain ⟨⟨snapshot, offered, rfl⟩, hbounds⟩ := houtside
  refine ⟨(Cycle.rests_of_cooling s cluster live h now hcool snapshot offered).internal_action, ?_⟩
  refine bne_iff_ne.mpr fun hhold => hbounds ?_
  exact (Cycle.hold_iff_of_cooling cluster hcool snapshot offered).mp hhold

namespace Series

/-- **Outside their bounds, secondaries that have changed never come to rest.** If the live count is
outside the bounds in every cycle of a series, and each cycle comes before the end of a cooldown that
begins with the one before, then in every cycle the engine proposes to stay and the tier is moved. -/
theorem moves_outside (hcooldown : 0 < s.engine.cooldown.nanos) (cluster : String) {t : UInt64}
    (hrecalls : (h.get .secondaries).Recalls t) {rs : List Round}
    (hclose : List.IsChain
      (fun t now => now.toNat * 1000000 < t.toNat * 1000000 + s.engine.cooldown.nanos)
      (t :: rs.map Round.now))
    (houtside : ∀ r ∈ rs, r.Outside s) :
    ∀ o ∈ outcomes s cluster h rs, (o.tiers.get .secondaries).internal.action = .hold
      ∧ (o.tiers.get .secondaries).decision.isChange = true := by
  -- on the cycles, with the histories free: each one leaves a change that is recalled
  induction rs generalizing h t with
  | nil => simp [outcomes]
  | cons r rs ih =>
    obtain ⟨hr, hrest⟩ := List.forall_mem_cons.mp houtside
    rw [List.map_cons, List.isChain_cons_cons] at hclose
    have hcool : s.engine.isCooling (h.get .secondaries) r.now = true :=
      s.engine.isCooling_of_recalls hcooldown hrecalls hclose.1
    have hmoved := hr.isChange cluster hcool
    have hcommits : r.commits = true := Round.commits_of_isChange s cluster h _ hmoved.2
    have hkept : ((r.after s cluster h).get .secondaries).Recalls r.now := by
      rw [Round.get_after, if_pos hcommits, ← Round.timestamp_move s cluster h .secondaries r]
      exact History.recalls_keep hmoved.2
    exact List.forall_mem_cons.mpr ⟨hmoved, ih hkept hclose.2 hrest⟩

end Series

end ClusterScaling
