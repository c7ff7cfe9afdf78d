import ClusterScaling.Proofs.Cycle.Landing
import ClusterScaling.Proofs.Cycle.Primaries
import ClusterScaling.Proofs.Cycle.Unadvised
import ClusterScaling.Proofs.Quorum.Contract

/-!
# One cycle settles a cluster

Loads that ask for no change do not keep the engine from proposing one: a
live count outside the bounds is moved into them, and an even count of
primaries becomes odd. Such a repair must not call for another one. Were
the floor of the quorum above the range that the bounds leave, or the guard
to veto its own repair, the counts would go back and forth for ever.

What a cycle has to reach is stated of the counts alone. Live counts are
**settled** (`Settings.Settled`) if the primaries are odd and in range and
both tiers are within their bounds. One cycle without advice settles them
from whatever counts it starts (`Cycle.settled_applied`): every stage of a
tier ends at such counts, except that a veto keeps the primaries where they
are, and there is none while all of them are healthy. And from settled
counts no cycle leads away (`Settings.Settled.stays`), because each stage
keeps them. The rules of the steps do not matter for either half. They may
close a direction to a step, but not to the guard, and a cycle that stays
asks them for a step of no length.
-/

namespace ClusterScaling

/-! ## Loads that ask for nothing -/

/-- The loads ask for no change: none is scored, or the driver is not above the band, and not below
it either if all of them are scored. -/
def Loads.AtRest (l : Loads Float) (e : EngineSettings) : Prop :=
  ∀ composite ∈ l.composite,
    let band : Band Float := .around (Scalar.ofFloat e.tolerance)
    let driver := e.trigger.driver l composite
    Scalar.less band.upper driver = false
      ∧ (l.isComplete = true → Scalar.less driver band.lower = false)

instance (l : Loads Float) (e : EngineSettings) : Decidable (l.AtRest e) :=
  inferInstanceAs (Decidable (∀ composite ∈ l.composite, _ = false ∧ (_ → _ = false)))

/-- The loads of both tiers ask for no change. -/
def Settings.AtRest (s : Settings) (snapshot : Snapshot) : Prop :=
  ∀ t, (Loads.ofReadings Float (s.tiers.get t).metrics (snapshot.tiers.get t)).AtRest s.engine

/-- At rest, the engine only moves the live count into the bounds. -/
theorem Loads.target_of_atRest {l : Loads Float} {e : EngineSettings} (h : l.AtRest e)
    (t : TierSettings) (current : UInt32) : l.target e t current = t.clamp current := by
  unfold target demand?
  cases hc : l.composite with
  | none => rfl
  | some composite =>
    obtain ⟨habove, hbelow⟩ := h composite hc
    have hside : Band.side (.around (Scalar.ofFloat e.tolerance)) l.isComplete
        (e.trigger.driver l composite) = .within := by
      unfold Band.side
      rw [habove]
      cases hcomplete : l.isComplete with
      | false => rfl
      | true =>
        rw [hbelow hcomplete]
        rfl
    simp only [Option.map_some]
    rw [hside]
    rfl

/-- At rest, a tier that does not cool down is proposed its live count, moved into the bounds. -/
theorem Proposal.target_of_atRest {e : EngineSettings} {t : TierSettings} {r : Readings}
    (hrest : (Loads.ofReadings Float t.metrics r).AtRest e) {h : History} {now : UInt64}
    (hcool : e.isCooling h now = false) (current : UInt32) :
    (propose e t current r h now).target = t.clamp current := by
  rw [propose, hcool, if_neg Bool.false_ne_true, target_ofLoads, Loads.target_of_atRest hrest]

/-! ## Settled counts -/

/-- The primaries are odd and in range, and both tiers are within their bounds. -/
structure Settings.Settled (s : Settings) (live : LiveState) : Prop where
  /-- The primaries are odd. -/
  odd : live.replicas.primaries.toNat % 2 = 1
  /-- There are not too few primaries for the quorum. -/
  lowest_le : (Cycle.oddRange s).lowest ≤ live.replicas.primaries.toNat
  /-- There are not too many primaries. -/
  le_highest : live.replicas.primaries.toNat ≤ (Cycle.oddRange s).highest
  /-- Both tiers are within their bounds. -/
  mem : ∀ t, (s.tiers.get t).least ≤ live.replicas.get t
    ∧ live.replicas.get t ≤ (s.tiers.get t).most

namespace OddRange

/-- **The guard lets a tier stay at an odd count in range**, however few are healthy. -/
theorem guard_of_mem (r : OddRange) {n : UInt32} (hodd : n.toNat % 2 = 1)
    (hlowest : r.lowest ≤ n.toNat) (hhighest : n.toNat ≤ r.highest) (state : QuorumState) :
    r.guard n n state = ⟨n, .allowed, none⟩ := by
  have hnone : shortage? state n.toNat n.toNat = none :=
    shortage?_eq_none.mpr fun hlt => absurd hlt (Nat.lt_irrefl _)
  unfold guard
  simp only [r.nearest_of_mem hodd hlowest hhighest, hnone, if_true]

/-- **The guard does not veto while all primaries are healthy**, if its range respects the
minimum. -/
theorem guard_of_healthy (r : OddRange) {state : QuorumState} {current : UInt32}
    (hmin : state.minHealthy.toNat ≤ r.lowest) (hhealthy : state.healthy = current)
    (candidate : UInt32) :
    (r.guard current candidate state).verdict ≠ .vetoed := by
  intro hveto
  obtain ⟨⟨hlt, hshort⟩, -⟩ := verdict_eq_vetoed_iff.mp hveto
  have hmem : r.lowest ≤ r.aim current candidate := (r.nearest_mem _ _).1
  -- what remains after a removal is the nearest odd count itself
  rw [hhealthy] at hshort
  omega

end OddRange

namespace Cycle

variable {s : Settings} {live : LiveState} {now : UInt64}

/-! ## Reaching settled counts -/

/-- The range of the primaries respects the minimum of healthy ones. -/
theorem minHealthy_le_lowest (hcheck : s.check = .ok ()) (live : LiveState) :
    (quorumState s live).minHealthy.toNat ≤ (oddRange s).lowest :=
  Nat.le_trans (Nat.le_max_right _ _)
    (OddRange.ofBounds_mem (Settings.check_eq_ok.mp hcheck).2.1).1

/-- **While all primaries are healthy, their stages reach a permitted count.** -/
theorem guardedPrimaries_of_healthy (hcheck : s.check = .ok ())
    (hhealthy : live.healthy = live.replicas.primaries) (candidate : UInt32) (h : History)
    (now : UInt64) :
    (oddRange s).Permits (quorumState s live) live.replicas.primaries
      (guardedPrimaries s live candidate h now).target := by
  have hguard (candidate : UInt32) : ((oddRange s).guard live.replicas.primaries candidate
      (quorumState s live)).verdict ≠ .vetoed :=
    (oddRange s).guard_of_healthy (minHealthy_le_lowest hcheck live) hhealthy candidate
  rcases guardedPrimaries_cases s live candidate h now with ⟨hveto, -⟩ | ⟨-, hpermits⟩
  · refine absurd hveto ?_
    unfold guardedPrimaries
    dsimp only
    rw [if_neg (hguard candidate)]
    intro hgraver
    rcases Verdict.graver_eq_vetoed.mp (Option.some.inj hgraver) with hv | hv
    · exact hguard _ hv
    · exact hguard _ hv
  · exact hpermits

end Cycle

/-- What is live once the targets of a cycle are applied and all primaries are healthy. -/
def Outcome.applied (o : Outcome) : LiveState :=
  ⟨.ofFun fun t => (o.tiers.get t).decision.target, o.tiers.primaries.decision.target⟩

@[simp]
theorem Outcome.get_applied (o : Outcome) (t : Tier) :
    o.applied.replicas.get t = (o.tiers.get t).decision.target := by
  unfold applied
  rw [PerTier.get_ofFun]

namespace Cycle

variable {s : Settings} {live : LiveState} {h : ClusterHistory} {now : UInt64} {cluster : String}

/-- **One cycle with readings settles the counts**, if all primaries are healthy and do not cool
down. -/
theorem settled_applied (hcheck : s.check = .ok ())
    (hhealthy : live.healthy = live.replicas.primaries)
    (hcool : s.engine.isCooling (h.get .primaries) now = false) (snapshot : Snapshot)
    (offered : Option Advice) :
    s.Settled (outcome s cluster live h now (.readings snapshot offered)).applied := by
  obtain ⟨htiers, hquorum, -⟩ := Settings.check_eq_ok.mp hcheck
  have hrange := OddRange.ofBounds_mem hquorum
  obtain ⟨candidate, htarget, -⟩ :=
    staged_of_readings s cluster live h now .primaries snapshot offered
  have hpermits := guardedPrimaries_of_healthy hcheck hhealthy candidate h.primaries now
  have hprimaries : (outcome s cluster live h now
      (.readings snapshot offered)).applied.replicas.primaries
        = (guardedPrimaries s live candidate h.primaries now).target := by
    rw [hcool] at htarget
    exact htarget
  refine ⟨?_, ?_, ?_, fun t => ?_⟩
  · rw [hprimaries]
    exact hpermits.odd
  · rw [hprimaries]
    exact hpermits.lowest_le
  · rw [hprimaries]
    exact hpermits.le_highest
  · cases t with
    | primaries =>
      rw [PerTier.get_primaries, PerTier.get_primaries, hprimaries, UInt32.le_iff_toNat_le,
        UInt32.le_iff_toNat_le]
      have hfloor := Nat.le_trans (Nat.le_max_left _ _) hrange.1
      exact ⟨Nat.le_trans hfloor hpermits.lowest_le, Nat.le_trans hpermits.le_highest hrange.2⟩
    | secondaries =>
      show s.tiers.secondaries.least
          ≤ ((outcome s cluster live h now (.readings snapshot offered)).tiers.get
              .secondaries).decision.target
        ∧ ((outcome s cluster live h now (.readings snapshot offered)).tiers.get
              .secondaries).decision.target ≤ s.tiers.secondaries.most
      rw [secondaries_of_readings]
      exact TierSettings.clamp_mem (TierSettings.check_eq_ok.mp (htiers .secondaries)).1 _

/-! ## Staying at settled counts -/

/-- The stages of a tier stay at settled counts if it is proposed that they do. -/
theorem stage_of_settled (hsettled : s.Settled live) (t : Tier) (cooling : Bool) (h : History)
    (now : UInt64) :
    (stage s live t (live.replicas.get t) cooling h now).target = live.replicas.get t := by
  cases t with
  | primaries =>
    cases cooling with
    | true => rfl
    | false =>
      have hguard := (oddRange s).guard_of_mem hsettled.odd hsettled.lowest_le
        hsettled.le_highest (quorumState s live)
      show (guardedPrimaries s live live.replicas.primaries h now).target = live.replicas.primaries
      unfold guardedPrimaries
      simp [hguard]
  | secondaries =>
    exact (stageSecondaries_self live.replicas.secondaries).trans
      (TierSettings.clamp_eq_self_iff.mpr (hsettled.mem .secondaries))

/-- Without an adviser that is switched on, the stages start from what the engine proposes. -/
theorem start_of_disabled (hadviser : (s.adviser.any fun a => a.enabled) = false)
    (snapshot : Snapshot) (offered : Option Advice) (t : Tier) :
    ((outcome s cluster live h now (.readings snapshot offered)).tiers.get t).start (s.tiers.get t)
      = (Proposal.propose s.engine (s.tiers.get t) (live.replicas.get t) (snapshot.tiers.get t)
          (h.get t) now).target := by
  have hasks : asksAdviser s (draft s live snapshot h now) = false := by
    unfold asksAdviser
    rw [hadviser]
    rfl
  rw [outcome_readings s cluster live h now hasks]
  cases t <;> rfl

end Cycle

/-- What a cycle is told, if it has readings at all, is a given snapshot. -/
def Told.Repeats (snapshot : Snapshot) : Told → Prop
  | .readings again _ => again = snapshot
  | _ => True

/-- **From settled counts no cycle leads away** while the loads are at rest and nobody advises,
whatever is remembered and whenever it is. -/
theorem Settings.Settled.stays {s : Settings} {live : LiveState} (hsettled : s.Settled live)
    (hadviser : (s.adviser.any fun a => a.enabled) = false) {snapshot : Snapshot}
    (hrest : s.AtRest snapshot) {told : Told} (htold : told.Repeats snapshot) (cluster : String)
    (h : ClusterHistory) (now : UInt64) (t : Tier) :
    ((Cycle.outcome s cluster live h now told).tiers.get t).decision.target
      = live.replicas.get t := by
  cases told with
  | cancelled => cases t <;> rfl
  | unavailable fault => cases t <;> rfl
  | readings again offered =>
    cases htold
    have hstart : ((Cycle.outcome s cluster live h now (.readings snapshot offered)).tiers.get
        t).start (s.tiers.get t) = live.replicas.get t := by
      rw [Cycle.start_of_disabled hadviser]
      cases hcool : s.engine.isCooling (h.get t) now with
      | true =>
        rw [Proposal.propose_of_cooling hcool]
        rfl
      | false =>
        rw [Proposal.target_of_atRest (hrest t) hcool,
          TierSettings.clamp_eq_self_iff.mpr (hsettled.mem t)]
    rw [Cycle.target_of_readings, hstart]
    exact Cycle.stage_of_settled hsettled t _ _ now

/-- **A series stays at settled counts**, from whatever histories it starts. -/
theorem Settings.Settled.stays_outcomes {s : Settings} {live : LiveState}
    (hsettled : s.Settled live) (hadviser : (s.adviser.any fun a => a.enabled) = false)
    {snapshot : Snapshot} (hrest : s.AtRest snapshot) (cluster : String) (h : ClusterHistory)
    {rs : List Round} (hrs : ∀ r ∈ rs, r.live = live ∧ r.told.Repeats snapshot) :
    ∀ o ∈ Series.outcomes s cluster h rs, ∀ t,
      (o.tiers.get t).decision.target = live.replicas.get t := by
  induction rs generalizing h with
  | nil => simp [Series.outcomes]
  | cons r rs ih =>
    obtain ⟨⟨hlive, htold⟩, hlater⟩ := List.forall_mem_cons.mp hrs
    refine List.forall_mem_cons.mpr ⟨fun t => ?_, ih _ hlater⟩
    unfold Round.outcome
    rw [hlive]
    exact hsettled.stays hadviser hrest htold cluster h r.now t

/-! ## One cycle is enough -/

/-- **One cycle settles a cluster for good.** If the loads are at rest, nobody advises, and the
primaries are all healthy and do not cool down, then every later cycle that finds the targets of
the cycle applied holds both tiers at exactly these targets, whatever it remembers and whenever it
is, as long as the readings are the same. -/
theorem settled_after_one {s : Settings} (hcheck : s.check = .ok ())
    (hadviser : (s.adviser.any fun a => a.enabled) = false) {snapshot : Snapshot}
    (hrest : s.AtRest snapshot) (cluster : String) (live : LiveState)
    (hhealthy : live.healthy = live.replicas.primaries) {h : ClusterHistory} {now : UInt64}
    (hcool : s.engine.isCooling (h.get .primaries) now = false) (offered : Option Advice) :
    let o := Cycle.outcome s cluster live h now (.readings snapshot offered)
    ∀ (later : ClusterHistory) (time : UInt64) (told : Told), told.Repeats snapshot → ∀ t,
      ((Cycle.outcome s cluster o.applied later time told).tiers.get t).decision.action = .hold
        ∧ ((Cycle.outcome s cluster o.applied later time told).tiers.get t).decision.target
          = (o.tiers.get t).decision.target := by
  intro o later time told htold t
  have hsettled : s.Settled o.applied :=
    Cycle.settled_applied hcheck hhealthy hcool snapshot offered
  have hstays := hsettled.stays hadviser hrest htold cluster later time t
  rw [Cycle.action_outcome, hstays, Action.between_self]
  exact ⟨rfl, o.get_applied t⟩

/-- Settings that close the way up to the primaries and the way down to the secondaries. -/
def Settings.closed : Settings :=
  let tier (least most : UInt32) (stepping : Stepping) : TierSettings :=
    ⟨least, most, [.ofKind .cpu "70"], stepping⟩
  .ofTiers (tier 3 7 ⟨⟨.zero, [], .disabled⟩, .usual⟩) (tier 1 9 ⟨.usual, ⟨.zero, [], .disabled⟩⟩)

/-- Four primaries are an even count and twelve secondaries are above their ceiling. Although these
ways are closed, one cycle makes them five and nine, and an hour later another one stays there. -/
theorem settled_after_one_closed :
    let cpu : Readings := { Readings.absent with cpu := .ofLive 70.0 }
    let told : Told := .readings ⟨.both cpu, 0, false⟩ none
    let live : LiveState := ⟨⟨4, 12⟩, 4⟩
    let o := Cycle.outcome .closed "db/main" live (.empty 64) 0 told
    let again := Cycle.outcome .closed "db/main" o.applied
      (Cycle.remember .closed live o (.empty 64) 0) 3600000 told
    Settings.closed.check = .ok () ∧ Settings.closed.AtRest ⟨.both cpu, 0, false⟩
      ∧ o.applied = ⟨⟨5, 9⟩, 5⟩
      ∧ (again.tiers.get .primaries).decision.target = 5
      ∧ (again.tiers.get .secondaries).decision.target = 9 := by
  intro cpu told live o again
  have hcheck : Settings.closed.check = .ok () := rfl
  have hrest : Settings.closed.AtRest ⟨.both cpu, 0, false⟩ := fun t => by
    cases t <;> decide +kernel
  have happlied : o.applied = ⟨⟨5, 9⟩, 5⟩ := by decide +kernel
  have hagain (t : Tier) : (again.tiers.get t).decision.target = o.applied.replicas.get t :=
    ((settled_after_one hcheck rfl hrest "db/main" live rfl rfl none
      (Cycle.remember .closed live o (.empty 64) 0) 3600000 told rfl t).2).trans
      (o.get_applied t).symm
  rw [hagain, hagain, happlied]
  exact ⟨hcheck, hrest, rfl, rfl, rfl⟩

end ClusterScaling
