import ClusterScaling.Proofs.Cycle.Secondaries
import ClusterScaling.Proofs.StepLimit.Allowance
import ClusterScaling.Proofs.Zones.Spread

/-!
# Where the secondaries land

With readings, the secondaries are on their way from the live count to the
count that the winning proposal names, and every stage may only shorten
the way. The rules of the direction do (`Stepping.limit_shortens`), a step
is taken as it is left or not at all (`shortens_stepped`), and bounds
within which the tier already is shorten it once more
(`TierSettings.shortens_clamp`). So the target lies between the live count
and the proposal, and no further from the live count than the rules let
the tier step. What comes out is within the bounds and spread over the
zones.
-/

namespace ClusterScaling

/-- The count that the stages of a tier start from: the adviser's, moved into the bounds, if it
won, and the engine's otherwise. -/
def TierOutcome.start (o : TierOutcome) (t : TierSettings) : UInt32 :=
  match o.proposer, o.advised with
  | .adviser, some d => t.clamp d.target
  | _, _ => o.internal.target

namespace TierSettings

variable {t : TierSettings} {current : UInt32}

/-- A count that is moved into bounds in order is within them. -/
theorem clamp_mem (horder : t.least ≤ t.most) (n : UInt32) :
    t.least ≤ t.clamp n ∧ t.clamp n ≤ t.most := by
  unfold clamp
  split
  · exact ⟨UInt32.le_refl _, horder⟩
  · next hleast =>
    split
    · exact ⟨horder, UInt32.le_refl _⟩
    · next hmost => exact ⟨UInt32.not_lt.mp hleast, UInt32.not_lt.mp hmost⟩

/-- **Bounds shorten the way from a count within them.** -/
theorem shortens_clamp (hleast : t.least ≤ current) (hmost : current ≤ t.most) (n : UInt32) :
    Shortens ((t.clamp n).toNat - current.toNat) (n.toNat - current.toNat) := by
  rw [UInt32.le_iff_toNat_le] at hleast hmost
  unfold clamp
  split
  · next hlt =>
    rw [UInt32.lt_iff_toNat_lt] at hlt
    exact ⟨fun _ => by omega, fun _ => by omega⟩
  · split
    · next hlt =>
      rw [UInt32.lt_iff_toNat_lt] at hlt
      exact ⟨fun _ => by omega, fun _ => by omega⟩
    · exact shortens_self _

end TierSettings

namespace Cycle

/-! ## The proposal that wins -/

/-- The engine proposes the live count or a count within the bounds. -/
theorem target_propose (e : EngineSettings) (t : TierSettings) (current : UInt32) (r : Readings)
    (h : History) (now : UInt64) :
    (Proposal.propose e t current r h now).target = current
      ∨ ∃ n, (Proposal.propose e t current r h now).target = t.clamp n := by
  unfold Proposal.propose
  split
  · exact .inl rfl
  · rw [Proposal.target_ofLoads, Loads.target]
    cases (Loads.ofReadings Float t.metrics r).demand? e current with
    | none => exact .inr ⟨current, rfl⟩
    | some d => exact .inr ⟨d.raw, rfl⟩

/-- The stages start from the proposal that is chosen. -/
theorem start_choose {o : TierOutcome} {e : EngineSettings} {t : TierSettings} {current : UInt32}
    {cooling : Bool}
    (hproposer : o.proposer = (choose e t current o.internal o.advised cooling).2) :
    o.start t = (choose e t current o.internal o.advised cooling).1.target := by
  unfold TierOutcome.start
  rw [hproposer]
  unfold choose
  cases o.advised with
  | none => rfl
  | some d =>
    cases cooling with
    | true => rfl
    | false =>
      dsimp only
      cases e.arbitration.choose o.internal.confidence (some d.confidence) <;> rfl

variable {s : Settings} {live : LiveState} {h : ClusterHistory} {now : UInt64} {cluster : String}
variable {snapshot : Snapshot} {offered : Option Advice}

/-- With readings, a tier ends where its stages lead from the proposal that wins. -/
theorem target_of_readings (t : Tier) :
    let o := (outcome s cluster live h now (.readings snapshot offered)).tiers.get t
    o.decision.target = (stage s live t (o.start (s.tiers.get t))
      (s.engine.isCooling (h.get t) now) (h.get t) now).target := by
  have hstart (o : TierOutcome) (advice : Option Advice)
      (ho : o = decideTier s live t (draftTier s live t (snapshot.tiers.get t) (h.get t) now)
        advice (h.get t) now) :
      o.decision.target = (stage s live t (o.start (s.tiers.get t))
        (s.engine.isCooling (h.get t) now) (h.get t) now).target := by
    subst ho
    rw [start_choose rfl]
    rfl
  cases t with
  | primaries => exact hstart _ _ rfl
  | secondaries => exact hstart _ _ rfl

/-- With readings, the secondaries end where the rules and the bounds lead from the proposal that
wins. -/
theorem secondaries_of_readings :
    ((outcome s cluster live h now (.readings snapshot offered)).tiers.get
        .secondaries).decision.target
      = (stageSecondaries s live.replicas.secondaries
          (((outcome s cluster live h now (.readings snapshot offered)).tiers.get
            .secondaries).start s.tiers.secondaries) (h.get .secondaries) now).target :=
  target_of_readings .secondaries

/-- Secondaries within their bounds start for a count within their bounds. -/
theorem start_mem (horder : s.tiers.secondaries.least ≤ s.tiers.secondaries.most)
    (hlive : s.Bounds live) :
    let start := (outcome s cluster live h now (.readings snapshot offered)).tiers.secondaries.start
      s.tiers.secondaries
    s.tiers.secondaries.least ≤ start ∧ start ≤ s.tiers.secondaries.most := by
  dsimp only
  unfold TierOutcome.start
  split
  · exact TierSettings.clamp_mem horder _
  · have hinternal : (outcome s cluster live h now
        (.readings snapshot offered)).tiers.secondaries.internal
          = Proposal.propose s.engine s.tiers.secondaries live.replicas.secondaries
              snapshot.tiers.secondaries h.secondaries now := rfl
    rw [hinternal]
    rcases target_propose s.engine s.tiers.secondaries live.replicas.secondaries
      snapshot.tiers.secondaries h.secondaries now with heq | ⟨n, heq⟩
    · rw [heq]
      exact hlive
    · rw [heq]
      exact TierSettings.clamp_mem horder n

/-! ## The way from the live count -/

/-- From within their bounds, the secondaries go no further than the rules let them step. -/
theorem shortens_stage (hlive : s.Bounds live) (candidate : UInt32) (h : History) (now : UInt64) :
    Shortens
      ((stageSecondaries s live.replicas.secondaries candidate h now).target.toNat
        - live.replicas.secondaries.toNat)
      (s.tiers.secondaries.stepping.limit
        ((candidate.toNat : Int) - live.replicas.secondaries.toNat) live.replicas.secondaries h
        now).delta :=
  (TierSettings.shortens_clamp hlive.1 hlive.2 _).trans (shortens_stepped _ _)

/-- **The secondaries do not go beyond the proposal.** -/
theorem stage_between (hlive : s.Bounds live) (candidate : UInt32) (h : History) (now : UInt64) :
    let target := (stageSecondaries s live.replicas.secondaries candidate h now).target
    min live.replicas.secondaries.toNat candidate.toNat ≤ target.toNat
      ∧ target.toNat ≤ max live.replicas.secondaries.toNat candidate.toNat := by
  dsimp only
  have hway := (shortens_stage hlive candidate h now).trans
    (Stepping.limit_shortens _ _ _ _ _)
  rcases Nat.le_total live.replicas.secondaries.toNat candidate.toNat with hle | hle
  · have := hway.1 (by omega)
    omega
  · have := hway.2 (by omega)
    omega

/-- **The secondaries go no further than the cap of the direction of the proposal.** -/
theorem stage_capped (hlive : s.Bounds live) (candidate : UInt32) (h : History) {cap : Nat}
    (hcap : (s.tiers.secondaries.stepping.rules
        (.between live.replicas.secondaries candidate)).cap?
      (.between live.replicas.secondaries candidate) live.replicas.secondaries h now = some cap) :
    (((stageSecondaries s live.replicas.secondaries candidate h now).target.toNat : Int)
      - live.replicas.secondaries.toNat).natAbs ≤ cap := by
  rw [← Stepping.direction_sub] at hcap
  exact Nat.le_trans (shortens_stage hlive candidate h now).natAbs_le (Stepping.natAbs_delta_le hcap)

/-- Secondaries that move go in the direction of the proposal. -/
theorem between_candidate (hlive : s.Bounds live) {candidate : UInt32} {h : History} {d : Action}
    (hd : d ≠ .hold)
    (haction : .between live.replicas.secondaries
      (stageSecondaries s live.replicas.secondaries candidate h now).target = d) :
    .between live.replicas.secondaries candidate = d := by
  obtain ⟨hmin, hmax⟩ := stage_between hlive candidate h now
  cases d with
  | hold => exact absurd rfl hd
  | scaleUp =>
    rw [Action.between_eq_scaleUp, UInt32.lt_iff_toNat_lt] at haction ⊢
    omega
  | scaleDown =>
    rw [Action.between_eq_scaleDown, UInt32.lt_iff_toNat_lt] at haction ⊢
    omega

/-- **A move of the secondaries keeps to the allowance of a policy that is heeded**: together with
what has moved in the period of the policy, it is no more than the policy allows. -/
theorem moved_add_le (hlive : s.Bounds live) {d : Action} (hd : d ≠ .hold) {p : StepPolicy}
    (hheeds : (s.tiers.secondaries.stepping.rules d).Heeds p) {told : Told}
    (haction : ((outcome s cluster live h now told).tiers.get .secondaries).decision.action = d) :
    p.moved d (h.get .secondaries) now
        + (Move.ofDecision live.replicas.secondaries
            ((outcome s cluster live h now told).tiers.get .secondaries).decision).magnitude
      ≤ p.allowance live.replicas.secondaries := by
  cases told with
  | cancelled => exact absurd haction.symm hd
  | unavailable fault => exact absurd haction.symm hd
  | readings snapshot offered =>
    have hbetween : Action.between live.replicas.secondaries _ = d :=
      (action_outcome s cluster live h now .secondaries _).symm.trans haction
    unfold Move.magnitude Move.ofDecision
    dsimp only
    rw [secondaries_of_readings] at hbetween ⊢
    obtain ⟨cap, hcap, hle⟩ := hheeds d live.replicas.secondaries (h.get .secondaries) now
    rw [← between_candidate hlive hd hbetween] at hcap
    have hcapped := Nat.le_trans (stage_capped hlive _ _ hcap) hle
    -- there is a move, so something was left
    have hne := mt UInt32.toNat_inj.mp (Action.ne_of_between hd hbetween)
    unfold StepPolicy.budget at hcapped
    omega

end Cycle

/-! ## The outcome -/

/-- What is asked of the outcome of the secondaries of a cycle that has readings. -/
structure TierOutcome.Lands (o : TierOutcome) (s : Settings) (live : LiveState) (h : History)
    (now : UInt64) : Prop where
  /-- The target is within the bounds. -/
  mem : s.tiers.secondaries.least ≤ o.decision.target
    ∧ o.decision.target ≤ s.tiers.secondaries.most
  /-- The action is the direction of the target. -/
  action_eq : o.decision.action = .between live.replicas.secondaries o.decision.target
  /-- If there are zones, the target is spread over them, as long as it can be reckoned with. -/
  zones : ∀ z, s.zones = some z → o.decision.target.toNat < UInt32.size - 1 →
    ∃ p, o.zonePlan = some p ∧ p.Spreads z.zones o.decision.target.toNat z.maxSkew.toNat
  /-- A tier within its bounds starts for a count within its bounds. -/
  start_mem : s.Bounds live → s.tiers.secondaries.least ≤ o.start s.tiers.secondaries
    ∧ o.start s.tiers.secondaries ≤ s.tiers.secondaries.most
  /-- It ends between the live count and the count that it starts for. -/
  between : s.Bounds live →
    min live.replicas.secondaries.toNat (o.start s.tiers.secondaries).toNat
        ≤ o.decision.target.toNat
      ∧ o.decision.target.toNat
        ≤ max live.replicas.secondaries.toNat (o.start s.tiers.secondaries).toNat
  /-- It goes no further than the cap of that direction, if there is one. -/
  capped : s.Bounds live → ∀ d, d = .between live.replicas.secondaries (o.start s.tiers.secondaries)
    → ∀ cap, (s.tiers.secondaries.stepping.rules d).cap? d live.replicas.secondaries h now
      = some cap →
    ((o.decision.target.toNat : Int) - live.replicas.secondaries.toNat).natAbs ≤ cap

/-- **Every cycle with readings decides well about the secondaries**, whatever is live, remembered,
read and advised. -/
theorem secondaries_land {s : Settings} (hcheck : s.check = .ok ()) (cluster : String)
    (live : LiveState) (h : ClusterHistory) (now : UInt64) (snapshot : Snapshot)
    (offered : Option Advice) :
    (Cycle.outcome s cluster live h now (.readings snapshot offered)).tiers.secondaries.Lands s live
      h.secondaries now := by
  obtain ⟨htiers, -, hzones, -⟩ := Settings.check_eq_ok.mp hcheck
  have horder : s.tiers.secondaries.least ≤ s.tiers.secondaries.most :=
    (TierSettings.check_eq_ok.mp (htiers .secondaries)).1
  have htarget : (Cycle.outcome s cluster live h now
      (.readings snapshot offered)).tiers.secondaries.decision.target = _ :=
    Cycle.secondaries_of_readings
  refine ⟨?_, Cycle.action_outcome s cluster live h now .secondaries _, fun z hz htotal => ?_,
    Cycle.start_mem horder, fun hlive => ?_, fun hlive d hd cap hcap => ?_⟩
  · rw [htarget]
    exact TierSettings.clamp_mem horder _
  · have hplan : (Cycle.outcome s cluster live h now
        (.readings snapshot offered)).tiers.secondaries.zonePlan
          = (s.zones.map fun z => z.plan (Cycle.outcome s cluster live h now
              (.readings snapshot offered)).tiers.secondaries.decision.target).map
            PlanOutcome.plan := rfl
    rw [hz] at hplan
    exact ⟨_, hplan, ZoneSettings.spreads_plan (hzones z hz) htotal⟩
  · rw [htarget]
    exact Cycle.stage_between hlive _ _ _
  · subst hd
    rw [htarget]
    exact Cycle.stage_capped hlive _ _ hcap

/-- Settings that spread the secondaries over three zones, let at most three be added in a minute,
and take the adviser at its word. -/
def Settings.zoned : Settings :=
  { Settings.ofTiers (.ofBounds 3 7)
      { TierSettings.ofBounds 1 9 with
        stepping := ⟨⟨.zero, [⟨.pods, 3, .ofSeconds 60⟩], .max⟩, .usual⟩ } with
    engine := { EngineSettings.usual with arbitration := .preferWebhook }
    zones := some ⟨["a", "b", "c"], ["c"], 1, 1⟩
    adviser := some ⟨"http://adviser", "POST", .ofSeconds 5, true⟩ }

/-- The adviser wants twelve secondaries where there are two. They start for nine, become five, and
the preferred zones have one more than the last. -/
theorem secondaries_land_zoned :
    let live : LiveState := ⟨⟨3, 2⟩, 3⟩
    let o := (Cycle.outcome .zoned "db/main" live (.empty 64) 0
      (.readings ⟨.both .absent, 0, false⟩
        (some ⟨.hold, ⟨none, some 12⟩, "", 1.0⟩))).tiers.secondaries
    Settings.zoned.check = .ok () ∧ o.start Settings.zoned.tiers.secondaries = 9
      ∧ o.decision.target = 5 ∧ o.zonePlan.map (·.entries) = some [("a", 2), ("b", 1), ("c", 2)]
      ∧ o.Lands .zoned live (ClusterHistory.empty 64).secondaries 0 := by
  have hcheck : Settings.zoned.check = .ok () := rfl
  exact ⟨hcheck, by decide +kernel, by decide +kernel, by decide +kernel,
    secondaries_land hcheck "db/main" _ _ 0 _ _⟩

end ClusterScaling
