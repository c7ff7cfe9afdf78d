import ClusterScaling.Proofs.Cycle.Retention
import ClusterScaling.Proofs.Cycle.Secondaries
import ClusterScaling.Proofs.Series.Cooldown

/-!
# How long a window keeps the secondaries from swinging

A stabilization window is to keep a tier from swinging: while a change in
one direction lies inside the window of the other direction, no cycle
moves the tier that way. Age is no danger to this, since moves are kept as
long as any rule looks back (`Cycle.window_le_retention`). Room is. Unlike
the time of the latest change, a change that a window looks for is a move
like any other, and every cycle that commits takes up room for one more,
also one that holds.

So the law has an exact measure. It holds of all runs in which fewer
cycles commit between the two changes than there is room for moves, and
with as many cycles in between there is a run in which the tier swings:
a change up, nothing but holds, and a change down, all at one moment.
-/

namespace ClusterScaling

/-- A moment that a window still covers is not before the window. -/
theorem History.since_le {now t : UInt64} {window : Duration} (hfits : window.millis < UInt64.size)
    (hwindow : (now.toNat - t.toNat) * 1000000 ≤ window.nanos) : since now window ≤ t.toNat := by
  have hmillis : window.clockMillis.toNat = window.millis := UInt64.toNat_ofNat_of_lt' hfits
  have hle : now.toNat - t.toNat ≤ window.millis := (Nat.le_div_iff_mul_le (by decide)).mpr hwindow
  unfold since
  rw [hmillis]
  omega

variable {s : Settings} {cluster : String} {h : ClusterHistory}

/-- **A change is still remembered while fewer cycles commit after it than there is room for**, if
it is not older than a window. -/
theorem Series.trails_move {between : List Round} {r : Round} {t : Tier} {now : UInt64}
    (before : List Round) (hr : r.commits = true)
    (hroom : between.countP Round.commits < (h.get t).capacity)
    (hsorted : ∀ x ∈ between, x.now ≤ now)
    (hage : History.since now (Cycle.retention s) ≤ r.now.toNat) :
    ((Series.after s cluster h (before ++ r :: between)).get t).Trails
      (r.move s cluster (Series.after s cluster h before) t) (between.countP Round.commits) := by
  rw [← length_moves s cluster (r.after s cluster (after s cluster h before)) t between] at hroom ⊢
  rw [get_after_cons s cluster h t hr between]
  refine History.trails_keepAll ?_ fun new hnew => ?_
  · rw [get_after, History.capacity_keepAll]
    exact hroom
  · -- no cycle in between comes so late that the change is too old
    obtain ⟨x, hx, past, rfl⟩ := mem_moves s cluster _ t hnew
    rw [Round.timestamp_move, Round.timestamp_move]
    exact Nat.le_trans (History.since_mono (hsorted x hx) _) hage

/-- **A window keeps the secondaries from swinging** while fewer cycles commit between two changes
than there is room for. -/
theorem Series.action_ne_opposite {before between : List Round} {r later : Round} {d : Action}
    (hfits : (Cycle.retention s).millis < UInt64.size)
    (hsorted : ∀ x ∈ between, x.now ≤ later.now) (hlive : s.Bounds later.live)
    (hroom : between.countP Round.commits < h.secondaries.capacity) (hd : d ≠ .hold)
    (hchange : ((r.outcome s cluster (Series.after s cluster h before)).tiers.get
      .secondaries).decision.action = d)
    (hzero : (s.tiers.secondaries.stepping.rules d.opposite).window.isZero = false)
    (hwindow : (later.now.toNat - r.now.toNat) * 1000000
      ≤ (s.tiers.secondaries.stepping.rules d.opposite).window.nanos) :
    ((later.outcome s cluster (Series.after s cluster h (before ++ r :: between))).tiers.get
      .secondaries).decision.action ≠ d.opposite := by
  have hr : r.commits = true := by
    refine Round.commits_of_isChange s cluster (Series.after s cluster h before) .secondaries ?_
    unfold Decision.isChange
    rw [hchange, bne_iff_ne]
    exact hd
  have hretention := Cycle.window_le_retention s .secondaries d.opposite
  have hage : History.since later.now (Cycle.retention s) ≤ r.now.toNat :=
    History.since_le hfits (Nat.le_trans hwindow hretention)
  have htrails : ((Series.after s cluster h (before ++ r :: between)).get .secondaries).Trails
      (r.move s cluster (Series.after s cluster h before) .secondaries)
        (between.countP Round.commits) := Series.trails_move before hr hroom hsorted hage
  have hopposite : d.opposite ≠ .hold := by
    cases d with
    | hold => exact absurd rfl hd
    | scaleUp => exact nofun
    | scaleDown => exact nofun
  refine Cycle.action_ne_of_recent hlive hopposite ?_ cluster later.told
  rw [Ne, StepRules.recentOpposite?_eq_none]
  rintro (hnone | hall)
  · rw [hzero] at hnone
    cases hnone
  · -- the change itself is remembered, and it lies inside the window
    have hbefore := hall _ htrails.mem (by rw [Action.opposite_opposite]; exact hchange)
    rw [Round.timestamp_move] at hbefore
    have hin :=
      History.since_le (Nat.lt_of_le_of_lt (Nat.div_le_div_right hretention) hfits) hwindow
    exact absurd hbefore (Nat.not_lt.mpr hin)

/-! ## The exact measure -/

/-- No run of a cluster that is scaled by accepted settings with a capacity swings over so many
cycles that commit: a change of the secondaries is not followed by one in the other direction while
it lies inside the window of that direction. The clock does not run backwards, the secondaries are
always within their bounds, and what the settings look back fits on the clock. -/
def SwingFree (capacity : UInt64) (n : Nat) : Prop :=
  ∀ s : Settings, s.check = .ok () → s.engine.historyCapacity = capacity →
    (Cycle.retention s).millis < UInt64.size →
    ∀ (cluster : String) (before : List Round) (r : Round) (between : List Round) (later : Round),
      (before ++ r :: between ++ [later]).Pairwise (fun x y => x.now ≤ y.now) →
      (∀ x ∈ before ++ r :: between ++ [later], s.Bounds x.live) →
      between.countP Round.commits = n →
      ∀ d : Action, d ≠ .hold →
        ((r.outcome s cluster (Series.after s cluster (.empty capacity) before)).tiers.get
          .secondaries).decision.action = d →
        (s.tiers.secondaries.stepping.rules d.opposite).window.isZero = false →
        (later.now.toNat - r.now.toNat) * 1000000
          ≤ (s.tiers.secondaries.stepping.rules d.opposite).window.nanos →
        ((later.outcome s cluster
            (Series.after s cluster (.empty capacity) (before ++ r :: between))).tiers.get
          .secondaries).decision.action ≠ d.opposite

/-- Settings with a window of five minutes before a removal, no cooldown, and an adviser that is
taken at its word. -/
def Settings.swinging (capacity : UInt64) : Settings :=
  { Settings.ofTiers (.ofBounds 3 7)
      { TierSettings.ofBounds 1 9 with
        stepping := ⟨.usual, { StepRules.usual with window := .ofSeconds 300 }⟩ } with
    engine :=
      { EngineSettings.usual with
        cooldown := .zero
        historyCapacity := capacity
        arbitration := .preferWebhook }
    adviser := some ⟨"http://adviser", "POST", .ofSeconds 5, true⟩ }

/-- A cycle that is advised to have a count of secondaries. -/
def Round.advised (secondaries target : UInt32) : Round :=
  ⟨⟨⟨3, secondaries⟩, 3⟩, 0,
    .readings ⟨.both .absent, 0, false⟩ (some ⟨.hold, ⟨none, some target⟩, "", 1.0⟩)⟩

/-- A cycle that gets no readings of four secondaries. -/
def Round.blind : Round := ⟨⟨⟨3, 4⟩, 3⟩, 0, .unavailable (.metricsUnavailable .secondaries)⟩

theorem check_swinging {capacity : UInt64} (hc : capacity ≠ 0) :
    (Settings.swinging capacity).check = .ok () := by
  obtain ⟨htolerance, hseverity, -⟩ :=
    EngineSettings.check_eq_ok.mp (show EngineSettings.usual.check = .ok () from rfl)
  rw [Settings.check_eq_ok, EngineSettings.check_eq_ok]
  refine ⟨fun t => ?_, show QuorumSettings.usual.check (.ofBounds 3 7) = .ok () from rfl, nofun,
    fun a ha => ?_, show CollectorSettings.usual.check = .ok () from rfl, htolerance, hseverity, hc⟩
  · cases t with
    | primaries => exact show (TierSettings.ofBounds 3 7).check .primaries = .ok () from rfl
    | secondaries => exact show (TierSettings.ofBounds 1 9).check .secondaries = .ok () from rfl
  · cases Option.some.inj ha
    rfl

/-- Advised secondaries end where their stages lead from the advice. -/
theorem target_advised (capacity : UInt64) (cluster : String) (h : ClusterHistory)
    (secondaries target : UInt32) :
    (((Round.advised secondaries target).outcome (.swinging capacity) cluster h).tiers.get
      .secondaries).decision.target
      = (Cycle.stageSecondaries (.swinging capacity) secondaries
          ((TierSettings.ofBounds 1 9).clamp target) (h.get .secondaries) 0).target :=
  Cycle.target_of_advice (.swinging capacity) cluster ⟨⟨3, secondaries⟩, 3⟩ h 0 .secondaries
    rfl rfl rfl (EngineSettings.isCooling_of_nanos_eq_zero rfl _ _)
    ⟨.hold, ⟨none, some target⟩, "", 1.0⟩ rfl ⟨.both .absent, 0, false⟩

/-- Two secondaries that are advised to be four become more. -/
theorem action_advised_up (capacity : UInt64) (cluster : String) (h : ClusterHistory) :
    (((Round.advised 2 4).outcome (.swinging capacity) cluster h).tiers.get
      .secondaries).decision.action = .scaleUp := by
  have hnone : (Settings.swinging capacity).tiers.secondaries.stepping.up.recentOpposite?
      .scaleUp (h.get .secondaries) 0 = none :=
    (StepRules.recentOpposite?_eq_none _ _ _ _).mpr (.inl rfl)
  have hfour :
      (Cycle.stageSecondaries (.swinging capacity) 2 4 (h.get .secondaries) 0).target = 4 := by
    show (TierSettings.ofBounds 1 9).clamp (stepped 2
      ((Settings.swinging capacity).tiers.secondaries.stepping.limit 2 2 _ 0).delta) = 4
    rw [Stepping.limit_of_pos _ _ _ _ (by decide), StepRules.limit_of_free hnone rfl rfl]
    decide
  have htarget := (target_advised capacity cluster h 2 4).trans hfour
  unfold Round.outcome at htarget ⊢
  rw [Cycle.action_outcome, htarget]
  rfl

/-- Four secondaries that are advised to be two become fewer, if nothing but holds is
remembered. -/
theorem action_advised_down (capacity : UInt64) (cluster : String) {h : ClusterHistory}
    (hholds : ∀ m ∈ (h.get .secondaries).moves, m.action = .hold) :
    (((Round.advised 4 2).outcome (.swinging capacity) cluster h).tiers.get
      .secondaries).decision.action = .scaleDown := by
  have hnone : (Settings.swinging capacity).tiers.secondaries.stepping.down.recentOpposite?
      .scaleDown (h.get .secondaries) 0 = none := by
    rw [StepRules.recentOpposite?_eq_none]
    refine .inr fun m hm hup => ?_
    rw [hholds m hm] at hup
    cases hup
  have htwo :
      (Cycle.stageSecondaries (.swinging capacity) 4 2 (h.get .secondaries) 0).target = 2 := by
    show (TierSettings.ofBounds 1 9).clamp (stepped 4
      ((Settings.swinging capacity).tiers.secondaries.stepping.limit (-2) 4 _ 0).delta) = 2
    rw [Stepping.limit_of_neg _ _ _ _ (by decide), StepRules.limit_of_free hnone rfl rfl]
    decide
  have htarget := (target_advised capacity cluster h 4 2).trans htwo
  unfold Round.outcome at htarget ⊢
  rw [Cycle.action_outcome, htarget]
  rfl

/-- **With as many holds in between as there is room for, the secondaries swing.** -/
theorem not_swingFree {capacity : UInt64} (hc : capacity ≠ 0) {n : Nat}
    (hn : capacity.toNat ≤ n) : ¬ SwingFree capacity n := by
  intro hfree
  have hpos : 0 < capacity.toNat := Nat.pos_of_ne_zero fun h => hc (UInt64.toNat_inj.mp h)
  -- all of it happens at one moment, so age plays no part
  have hall : ∀ x ∈ [] ++ Round.advised 2 4 :: List.replicate n .blind ++ [.advised 4 2],
      x.now = 0 ∧ (Settings.swinging capacity).Bounds x.live := by
    intro x hx
    simp only [List.nil_append, List.cons_append, List.mem_cons, List.mem_append,
      List.mem_replicate, List.not_mem_nil, or_false] at hx
    rcases hx with rfl | ⟨-, rfl⟩ | rfl
    · exact ⟨rfl, show (1 : UInt32) ≤ 2 ∧ (2 : UInt32) ≤ 9 by decide⟩
    · exact ⟨rfl, show (1 : UInt32) ≤ 4 ∧ (4 : UInt32) ≤ 9 by decide⟩
    · exact ⟨rfl, show (1 : UInt32) ≤ 4 ∧ (4 : UInt32) ≤ 9 by decide⟩
  refine hfree (.swinging capacity) (check_swinging hc) rfl ?_ "db/main" [] (.advised 2 4)
    (List.replicate n .blind) (.advised 4 2) ?_ (fun x hx => (hall x hx).2) ?_ .scaleUp nofun
    (action_advised_up capacity "db/main" _) rfl ?_ ?_
  · show (Cycle.retention (.swinging 1)).millis < UInt64.size
    decide
  · refine List.Pairwise.imp_of_mem (fun {x y} hx hy _ => ?_)
      (List.pairwise_of_forall fun _ _ => trivial)
    rw [(hall x hx).1, (hall y hy).1]
    exact UInt64.le_refl 0
  · rw [List.countP_replicate]
    rfl
  · show (0 - 0) * 1000000 ≤ _
    exact Nat.zero_le _
  · refine action_advised_down capacity "db/main" fun m hm => ?_
    have hcommits : (Round.advised 2 4).commits = true := rfl
    rw [Series.get_after_cons _ _ _ _ hcommits] at hm
    -- the holds have driven the change out
    have hmem := History.mem_of_mem_keepAll (History.fits_empty capacity) [_] ?_ hm
    · obtain ⟨x, hx, past, rfl⟩ := Series.mem_moves _ _ _ _ hmem
      rw [(List.mem_replicate.mp hx).2]
      rfl
    · rw [Series.length_moves, List.countP_replicate]
      show max capacity.toNat 1 ≤ n
      omega

/-- **The measure of the window.** Runs are free of swings exactly over fewer cycles than there is
room for moves. -/
theorem swingFree_iff {capacity : UInt64} (hc : capacity ≠ 0) (n : Nat) :
    SwingFree capacity n ↔ n < capacity.toNat := by
  constructor
  · intro hfree
    exact Nat.lt_of_not_le fun hn => not_swingFree hc hn hfree
  · intro hn s _ _ hfits cluster before r between later hsorted hlive hcount d hd hchange hzero
      hwindow
    have hlater : ∀ x ∈ between, x.now ≤ later.now := fun x hx =>
      (List.pairwise_append.mp hsorted).2.2 x
        (List.mem_append_right before (List.mem_cons_of_mem r hx)) later List.mem_cons_self
    have hroom : between.countP Round.commits
        < (ClusterHistory.empty capacity).secondaries.capacity := by
      show _ < max capacity.toNat 1
      omega
    exact Series.action_ne_opposite hfits hlater
      (hlive later (List.mem_append_right _ List.mem_cons_self)) hroom hd hchange hzero hwindow

/-- With room for two moves, four secondaries that were two before a single hold stay four,
although they are advised to be two. -/
theorem swingFree_two :
    (2 : UInt64) ≠ 0
      ∧ (((Round.advised 4 2).outcome (.swinging 2) "db/main"
          (Series.after (.swinging 2) "db/main" (.empty 2)
            ([] ++ Round.advised 2 4 :: [Round.blind]))).tiers.get
          .secondaries).decision.action ≠ .scaleDown := by
  have hc : (2 : UInt64) ≠ 0 := by decide
  have hfree : SwingFree 2 1 := (swingFree_iff hc 1).mpr (by decide)
  exact ⟨hc, hfree (.swinging 2) (check_swinging hc) rfl (by decide) "db/main" [] (.advised 2 4)
    [.blind] (.advised 4 2) (by decide) (by decide) rfl .scaleUp nofun
    (action_advised_up 2 "db/main" _) rfl (by decide)⟩

/-- Settings that remember a single move, with a window of five minutes before a removal. -/
def Settings.forgetful : Settings :=
  let s := Settings.onCpu .zero
  { s with
    engine := { s.engine with historyCapacity := 1 }
    tiers := s.tiers.set .secondaries
      { s.tiers.secondaries with
        stepping := ⟨.usual, { StepRules.usual with window := .ofSeconds 300 }⟩ } }

/-- **A single hold makes room for a swing**: with room for one move, two secondaries become four,
are held after a minute, and become two again after another minute, inside a window of five. -/
theorem swings_forgetful :
    let first := Round.loaded 140.0 2 1000000
    let held := Round.loaded 70.0 4 1060000
    let last := Round.loaded 35.0 4 1120000
    let h := ClusterHistory.empty 1
    Settings.forgetful.check = .ok ()
      ∧ ((first.outcome .forgetful "db/main" h).tiers.get .secondaries).decision.action = .scaleUp
      ∧ ((held.outcome .forgetful "db/main" (Series.after .forgetful "db/main" h [first])).tiers.get
          .secondaries).decision.action = .hold
      ∧ ((last.outcome .forgetful "db/main"
          (Series.after .forgetful "db/main" h [first, held])).tiers.get
          .secondaries).decision.action = .scaleDown
      ∧ (last.now.toNat - first.now.toNat) * 1000000
          ≤ (Settings.forgetful.tiers.secondaries.stepping.rules .scaleDown).window.nanos :=
  ⟨rfl, by decide +kernel, by decide +kernel, by decide +kernel, by decide⟩

end ClusterScaling
