import ClusterScaling.Proofs.Cycle.Stages
import ClusterScaling.Proofs.Quorum.Guard

/-!
# The primaries are safe in every cycle

Whoever proposes a count for the primaries, and however far it is out of
range, the proposal passes the quorum guard, the limits on steps and the
guard again. Only the last of these decides: the limits shorten a step to
any count at all, but what the second guard lets through is permitted, and
what it does not let through is the live count. So the invariant of the
whole pipeline is the disjunction `OddRange.guard_cases` of its last
stage, and nothing has to be known about the stages before it except that
the graver of two verdicts is a veto if either is.

The main statement reads this off the outcome of a cycle. The cases in
which the guard is not asked, a cancelled cycle, one without readings and
one in which the primaries cool down, all keep the live count.
-/

namespace ClusterScaling

namespace Cycle

variable (s : Settings) (live : LiveState) (candidate : UInt32) (h : History) (now : UInt64)

/-- **The stages of the primaries end like the guard**: they veto and keep the live count, or
they reach a permitted one. -/
theorem guardedPrimaries_cases :
    ((guardedPrimaries s live candidate h now).verdict = some .vetoed
        ∧ (guardedPrimaries s live candidate h now).target = live.replicas.primaries)
      ∨ ((guardedPrimaries s live candidate h now).verdict ≠ some .vetoed
        ∧ (oddRange s).Permits (quorumState s live) live.replicas.primaries
            (guardedPrimaries s live candidate h now).target) := by
  unfold guardedPrimaries
  dsimp only
  split
  · exact .inl ⟨rfl, rfl⟩
  · next hfirst =>
    dsimp only
    -- the limits on steps may stop anywhere, so only the second guard counts
    generalize stepped live.replicas.primaries _ = reached
    rcases (oddRange s).guard_cases live.replicas.primaries reached (quorumState s live)
      with ⟨hveto, hcount⟩ | ⟨hpass, hpermits⟩
    · exact .inl ⟨congrArg some (Verdict.graver_eq_vetoed.mpr (.inr hveto)), hcount⟩
    · refine .inr ⟨fun hv => ?_, hpermits⟩
      rcases Verdict.graver_eq_vetoed.mp (Option.some.inj hv) with hv | hv
      · exact hfirst hv
      · exact hpass hv

variable (cluster : String) (hs : ClusterHistory)

/-- When the primaries keep their live count whatever is asked of them: the cycle is cancelled, it
has no readings, they cool down, or the guard vetoes. -/
def KeepsPrimaries (told : Told) (o : Outcome) : Prop :=
  told = .cancelled ∨ (∃ fault, told = .unavailable fault)
    ∨ s.engine.isCooling hs.primaries now = true ∨ o.tiers.primaries.verdict = some .vetoed

/-- **The primaries of a cycle keep the live count or reach a permitted one**, and they keep it
exactly where the guard is not asked or vetoes. -/
theorem primaries_cases (told : Told) :
    (KeepsPrimaries s now hs told (outcome s cluster live hs now told)
        ∧ (outcome s cluster live hs now told).tiers.primaries.decision.target
          = live.replicas.primaries)
      ∨ (¬ KeepsPrimaries s now hs told (outcome s cluster live hs now told)
        ∧ (oddRange s).Permits (quorumState s live) live.replicas.primaries
            (outcome s cluster live hs now told).tiers.primaries.decision.target) := by
  cases told with
  | cancelled => exact .inl ⟨.inl rfl, rfl⟩
  | unavailable fault => exact .inl ⟨.inr (.inl ⟨fault, rfl⟩), rfl⟩
  | readings snapshot offered =>
    obtain ⟨candidate, htarget, hverdict⟩ :=
      staged_of_readings s cluster live hs now .primaries snapshot offered
    rw [PerTier.get_primaries, PerTier.get_primaries] at htarget hverdict
    unfold KeepsPrimaries
    rw [htarget, hverdict]
    cases hcool : s.engine.isCooling hs.primaries now with
    | true => exact .inl ⟨.inr (.inr (.inl rfl)), rfl⟩
    | false =>
      rcases guardedPrimaries_cases s live candidate hs.primaries now with ⟨hv, ht⟩ | ⟨hv, ht⟩
      · exact .inl ⟨.inr (.inr (.inr hv)), ht⟩
      · refine .inr ⟨?_, ht⟩
        rintro (hk | ⟨_, hk⟩ | hk | hk)
        · cases hk
        · cases hk
        · cases hk
        · exact hv hk

end Cycle

/-- **The primaries are safe in every cycle.** Whatever the histories, the readings or the lack of
them, the advice, the live counts and the time: where the primaries do not keep their live count,
their target is odd and lies between the greater of their two floors and their ceiling; and a
removal leaves enough healthy primaries, unless the owner allows it to break the quorum. -/
theorem primaries_safe {s : Settings} (hcheck : s.check = .ok ()) (cluster : String)
    (live : LiveState) (h : ClusterHistory) (now : UInt64) (told : Told) :
    let o := Cycle.outcome s cluster live h now told
    let target := o.tiers.primaries.decision.target
    let current := live.replicas.primaries
    (Cycle.KeepsPrimaries s now h told o → target = current)
      ∧ (¬ Cycle.KeepsPrimaries s now h told o →
        target.toNat % 2 = 1
          ∧ max s.tiers.primaries.least.toNat s.quorum.minHealthy.toNat ≤ target.toNat
          ∧ target.toNat ≤ s.tiers.primaries.most.toNat)
      ∧ (target < current → s.quorum.allowBreak = false →
        (s.quorum.minHealthy.toNat : Int)
          ≤ live.healthy.toNat - (current.toNat - target.toNat)) := by
  dsimp only
  have hrange := OddRange.ofBounds_mem (Settings.check_eq_ok.mp hcheck).2.1
  rcases Cycle.primaries_cases s live now cluster h told with ⟨hkeeps, htarget⟩ | ⟨hmoves, hpermits⟩
  · refine ⟨fun _ => htarget, fun hmoves => absurd hkeeps hmoves, fun hlt => ?_⟩
    rw [htarget] at hlt
    exact absurd hlt (UInt32.lt_irrefl _)
  · exact ⟨fun hkeeps => absurd hkeeps hmoves,
      fun _ => ⟨hpermits.odd, Nat.le_trans hrange.1 hpermits.lowest_le,
        Nat.le_trans hpermits.le_highest hrange.2⟩,
      hpermits.enough⟩

/-- Settings that keep three healthy primaries, let at most two be removed in a minute, and take
the adviser at its word. -/
def Settings.walking : Settings :=
  { Settings.ofTiers
      { TierSettings.ofBounds 2 8 with
        stepping := ⟨.usual, ⟨.zero, [⟨.pods, 2, .ofSeconds 60⟩], .max⟩⟩ }
      (.ofBounds 1 9) with
    engine := { EngineSettings.usual with arbitration := .preferWebhook }
    quorum := ⟨3, false⟩
    adviser := some ⟨"http://adviser", "POST", .ofSeconds 5, true⟩ }

/-- The adviser wants four of eight primaries. The guard makes it three, the limit six, and the
guard again five. -/
theorem primaries_safe_walking :
    let o := Cycle.outcome .walking "db/main" ⟨⟨8, 1⟩, 8⟩ (.empty 64) 0
      (.readings ⟨.both .absent, 0, false⟩ (some ⟨.hold, ⟨some 4, none⟩, "", 1.0⟩))
    let target := o.tiers.primaries.decision.target
    Settings.walking.check = .ok () ∧ target = 5 ∧ target.toNat % 2 = 1
      ∧ (3 : Int) ≤ 8 - (8 - target.toNat) := by
  intro o target
  have hcheck : Settings.walking.check = .ok () := rfl
  have htarget : target = 5 := by decide +kernel
  have hmoves : ¬ Cycle.KeepsPrimaries .walking 0 (.empty 64)
      (.readings ⟨.both .absent, 0, false⟩ (some ⟨.hold, ⟨some 4, none⟩, "", 1.0⟩)) o := by
    rintro (hk | ⟨_, hk⟩ | hk | hk)
    · cases hk
    · cases hk
    · exact absurd hk (by decide +kernel)
    · exact absurd hk (by decide +kernel)
  obtain ⟨-, hodd, henough⟩ := primaries_safe hcheck "db/main" ⟨⟨8, 1⟩, 8⟩ (.empty 64) 0
    (.readings ⟨.both .absent, 0, false⟩ (some ⟨.hold, ⟨some 4, none⟩, "", 1.0⟩))
  exact ⟨hcheck, htarget, (hodd hmoves).1, henough (by decide +kernel) rfl⟩

end ClusterScaling
