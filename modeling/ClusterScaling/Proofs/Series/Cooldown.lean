import ClusterScaling.Proofs.Series.Memory
import ClusterScaling.Settings.Validity

/-!
# A change starts a cooldown that nothing cuts short

After a change a tier rests until its cooldown has passed. The times of
cycles are wall-clock times, so they may repeat and run backwards, holds
may fill the room for moves, and old moves are forgotten; none of this
ends a cooldown. The reason is that a cooldown is measured from the time
of the latest change, which only grows (`History.recalls_keepAll`), and
that time which has run backwards counts as no time at all.

The last point is also where the statement needs its one hypothesis. A
cooldown of no length is over at once, by whatever clock: if the clock has
run backwards behind the change, "now is before the end of the cooldown"
holds of it, and still the tier does not rest.
-/

namespace ClusterScaling

/-- **A tier cools down while the cooldown of a change that it recalls lasts.** -/
theorem EngineSettings.isCooling_of_recalls {e : EngineSettings} {h : History} {t now : UInt64}
    (hcooldown : 0 < e.cooldown.nanos) (hr : h.Recalls t)
    (hnow : now.toNat * 1000000 < t.toNat * 1000000 + e.cooldown.nanos) :
    e.isCooling h now = true := by
  obtain ⟨last, hlast, hle⟩ := hr
  -- a clock that has run backwards makes the difference zero, and the cooldown is longer than that
  have helapsed : (now.toNat - last.toNat) * 1000000 < e.cooldown.nanos := by
    rw [Nat.sub_mul]
    have hmul := Nat.mul_le_mul_right 1000000 (UInt64.le_iff_toNat_le.mp hle)
    omega
  unfold isCooling coolingLeft?
  rw [hlast]
  dsimp only
  rw [if_pos helapsed]
  rfl

/-- A cooldown of no length never holds a tier. -/
theorem EngineSettings.isCooling_of_nanos_eq_zero {e : EngineSettings}
    (hcooldown : e.cooldown.nanos = 0) (h : History) (now : UInt64) : e.isCooling h now = false := by
  unfold isCooling coolingLeft?
  cases h.lastChange with
  | none => rfl
  | some last =>
    dsimp only
    rw [if_neg (by rw [hcooldown]; exact Nat.not_lt_zero _)]
    rfl

/-- What a cycle decides about a tier that rests. Its engine proposes the live count, and no
advice takes the place of this. The primaries then stay as they are; the secondaries may still be
moved into their bounds. -/
structure TierOutcome.Rests (o : TierOutcome) (t : Tier) (current : UInt32) : Prop where
  /-- The decision is about the tier. -/
  tier_eq : o.tier = t
  /-- The engine proposes to hold. -/
  internal_action : o.internal.action = .hold
  /-- The engine proposes the live count. -/
  internal_target : o.internal.target = current
  /-- The decision starts from what the engine proposes. -/
  proposer_eq : o.proposer = .engine
  /-- Primaries are held in the end. -/
  action_eq : t = .primaries → o.decision.action = .hold
  /-- Primaries are held at their live count. -/
  target_eq : t = .primaries → o.decision.target = current

namespace Cycle

variable (s : Settings) (cluster : String) (live : LiveState) (h : ClusterHistory) (now : UInt64)

/-- A tier for which there are no readings rests. -/
theorem rests_hold (reason : String) (t : Tier) :
    ((hold cluster live reason now).tiers.get t).Rests t (live.replicas.get t) := by
  cases t with
  | primaries => exact ⟨rfl, rfl, rfl, rfl, fun _ => rfl, fun _ => rfl⟩
  | secondaries => exact ⟨rfl, rfl, rfl, rfl, fun _ => rfl, fun _ => rfl⟩

/-- A tier that cools down listens to no advice. -/
theorem choose_cooling (e : EngineSettings) (t : TierSettings) (current : UInt32)
    (internal : Decision) (advised : Option Decision) :
    choose e t current internal advised true = (internal, .engine) := by
  cases advised <;> rfl

/-- **A tier that cools down rests**, whatever the adviser answers. -/
theorem rests_of_cooling {t : Tier} (hcool : s.engine.isCooling (h.get t) now = true)
    (snapshot : Snapshot) (offered : Option Advice) :
    ((outcome s cluster live h now (.readings snapshot offered)).tiers.get t).Rests t
      (live.replicas.get t) := by
  have hdraft : (draft s live snapshot h now).get t
      = ⟨Proposal.cooling (live.replicas.get t) now, true⟩ := by
    unfold draft
    rw [PerTier.get_ofFun, draftTier, Proposal.propose_of_cooling hcool, hcool]
  unfold outcome decide
  dsimp only
  rw [PerTier.get_ofFun, hdraft]
  unfold decideTier
  dsimp only
  rw [choose_cooling]
  dsimp only
  refine ⟨rfl, rfl, rfl, rfl, ?_, ?_⟩
  · rintro rfl
    exact Action.between_self _
  · rintro rfl
    rfl

end Cycle

/-- **A cooldown is never cut short.** Once a cycle of a series has changed a tier, every later
cycle that is not cancelled and decides as of a time before the end of the cooldown lets the tier
rest: whatever happened in between, at whatever times, and whatever is live, read and advised. -/
theorem cooldown_rests {s : Settings} (hcooldown : 0 < s.engine.cooldown.nanos) (cluster : String)
    (h : ClusterHistory) (before between : List Round) (r later : Round) (t : Tier)
    (hchange : ((r.outcome s cluster (Series.after s cluster h before)).tiers.get
      t).decision.isChange = true)
    (hcommits : later.commits = true)
    (hnow : later.now.toNat * 1000000 < r.now.toNat * 1000000 + s.engine.cooldown.nanos) :
    ((later.outcome s cluster (Series.after s cluster h (before ++ r :: between))).tiers.get
      t).Rests t (later.live.replicas.get t) := by
  have hr : r.commits = true := Round.commits_of_isChange s cluster _ t hchange
  have hrecalls : ((Series.after s cluster h (before ++ r :: between)).get t).Recalls r.now := by
    -- the change is the first of the moves that are kept from then on
    rw [Series.get_after_cons s cluster h t hr between,
      ← Round.timestamp_move s cluster (Series.after s cluster h before) t r]
    exact History.recalls_keepAll List.mem_cons_self hchange
  have hcool := s.engine.isCooling_of_recalls hcooldown hrecalls hnow
  obtain ⟨live, now, told⟩ := later
  cases told with
  | cancelled => cases hcommits
  | unavailable fault => exact Cycle.rests_hold cluster live now fault.message t
  | readings snapshot offered =>
    exact Cycle.rests_of_cooling s cluster live _ now hcool snapshot offered

/-- Settings that scale both tiers on their processors and give them a cooldown. -/
def Settings.onCpu (cooldown : Duration) : Settings :=
  { Settings.ofTiers { TierSettings.ofBounds 3 7 with metrics := [.ofKind .cpu "70"] }
      { TierSettings.ofBounds 1 9 with metrics := [.ofKind .cpu "70"] } with
    engine := { EngineSettings.usual with cooldown } }

/-- A cycle whose primaries are loaded as they should be, and whose secondaries have a processor
utilisation. -/
def Round.loaded (cpu : Float) (secondaries : UInt32) (now : UInt64) : Round :=
  ⟨⟨⟨3, secondaries⟩, 3⟩, now,
    .readings
      ⟨⟨{ Readings.absent with cpu := .ofLive 70.0 }, { Readings.absent with cpu := .ofLive cpu }⟩,
        now, false⟩ none⟩

/-- A minute after two secondaries have become four they rest, although they are overloaded
again, and although the clock has run backwards in between. -/
theorem cooldown_rests_onCpu :
    0 < (Settings.onCpu (.ofSeconds 300)).engine.cooldown.nanos
      ∧ (((Round.loaded 140.0 4 2060000).outcome (.onCpu (.ofSeconds 300)) "db/main"
          (Series.after (.onCpu (.ofSeconds 300)) "db/main" (.empty 64)
            ([] ++ Round.loaded 140.0 2 2000000 :: [Round.loaded 140.0 4 1000000]))).tiers.get
          .secondaries).Rests .secondaries 4 := by
  have hcooldown : 0 < (Settings.onCpu (.ofSeconds 300)).engine.cooldown.nanos := by decide
  exact ⟨hcooldown,
    cooldown_rests hcooldown "db/main" (.empty 64) [] [.loaded 140.0 4 1000000]
      (.loaded 140.0 2 2000000) (.loaded 140.0 4 2060000) .secondaries (by decide +kernel) rfl (by decide)⟩

/-- **Without a cooldown nothing rests**, not even while the clock shows a time before the change:
two secondaries become four, and a thousand seconds earlier these become eight. -/
theorem not_rests_without_cooldown :
    (Settings.onCpu .zero).check = .ok ()
      ∧ (((Round.loaded 140.0 2 2000000).outcome (.onCpu .zero) "db/main" (.empty 64)).tiers.get
          .secondaries).decision.isChange = true
      ∧ (1000000 : UInt64).toNat * 1000000
          < (2000000 : UInt64).toNat * 1000000 + (Settings.onCpu .zero).engine.cooldown.nanos
      ∧ ¬ (((Round.loaded 140.0 4 1000000).outcome (.onCpu .zero) "db/main"
          (Series.after (.onCpu .zero) "db/main" (.empty 64)
            [Round.loaded 140.0 2 2000000])).tiers.get .secondaries).Rests .secondaries 4 := by
  refine ⟨rfl, by decide +kernel, by decide, fun hrests => ?_⟩
  have htarget := hrests.internal_target
  revert htarget
  decide +kernel

end ClusterScaling
