import ClusterScaling.Proofs.Fleet.Serial

/-!
# A cycle commits whole or leaves no trace

Whatever a cycle is told, and whenever it is cancelled, one event ends it
and adds its result. Until then nothing is remembered of it. If it is
cancelled, nothing is remembered with that event either: the histories of
all clusters and all figures stay as they are. Otherwise the same event
pushes one move for each tier, from the live count to the target of the
decision, and counts one decision for each tier.

The histories are read off the transitions of a fleet, which say nothing
about figures. Those follow from the results: what an event does to them
is to record the results that it adds, except for those of cancelled
cycles (`Fleet.Adds`), and the same then holds of runs.
-/

namespace ClusterScaling

/-- Both tiers are to stay as they are. -/
def Outcome.Holds (live : LiveState) (o : Outcome) : Prop :=
  ∀ t, (o.tiers.get t).decision.action = .hold
    ∧ (o.tiers.get t).decision.target = live.replicas.get t

/-- The figures of a tier after one more decision. -/
def TierFigures.after (figures : TierFigures) (d : Decision) : TierFigures :=
  ⟨figures.events.count d.action, d.target, unitClamp d.confidence⟩

namespace Cycle

/-! ## What a cycle decides and records -/

/-- A cycle decides about each tier under its name. -/
theorem tier_outcome (s : Settings) (cluster : String) (live : LiveState) (h : ClusterHistory)
    (now : UInt64) (told : Told) (t : Tier) :
    ((outcome s cluster live h now told).tiers.get t).tier = t := by
  cases told <;> cases t <;> rfl

/-- Only a cycle that is told so is cancelled. -/
theorem cancelled_outcome (s : Settings) (cluster : String) (live : LiveState) (h : ClusterHistory)
    (now : UInt64) (told : Told) :
    (outcome s cluster live h now told).cancelled = !told.commits := by
  cases told <;> rfl

/-- A cancelled cycle has both tiers stay as they are. -/
theorem holds_cancelled (cluster : String) (live : LiveState) (now : UInt64) :
    (cancelled cluster live now).Holds live := by
  intro t
  cases t <;> exact ⟨rfl, rfl⟩

/-- Without readings a cycle has both tiers stay as they are. -/
theorem holds_unavailable (s : Settings) (cluster : String) (live : LiveState) (h : ClusterHistory)
    (now : UInt64) (fault : Fault) :
    (outcome s cluster live h now (.unavailable fault)).Holds live := by
  intro t
  cases t <;> exact ⟨rfl, rfl⟩

/-- **The decision about a tier is counted once.** The figures of the other tier and of other
clusters stay as they are. -/
theorem figures_recordTier (r : Recorder) (cluster other : String) (t : TierOutcome) (u : Tier) :
    ((recordTier r cluster t).figures other).tiers.get u
      = if cluster = other ∧ t.tier = u then ((r.figures other).tiers.get u).after t.decision
        else (r.figures other).tiers.get u := by
  -- whether a verdict is counted besides makes no difference to the figures of the tiers
  have hverdict (r : Recorder) (v : Verdict) :
      ((r.recordVerdict cluster v).figures other).tiers = (r.figures other).tiers := by
    unfold Recorder.recordVerdict
    rw [Recorder.figures_update]
    split
    · next h => rw [h]
    · rfl
  have hdecision : ((((r.recordDecision cluster t.tier t.decision.action
        t.decision.confidence).setReplicas cluster t.tier t.decision.target).figures
          other).tiers.get u)
      = if cluster = other ∧ t.tier = u then ((r.figures other).tiers.get u).after t.decision
        else (r.figures other).tiers.get u := by
    unfold Recorder.setReplicas Recorder.recordDecision
    rw [Recorder.figures_update, Recorder.figures_update, Recorder.figures_update]
    by_cases hcluster : cluster = other
    · subst hcluster
      simp only [if_true, true_and]
      cases t.tier <;> cases u <;> rfl
    · rw [if_neg hcluster, if_neg hcluster, if_neg fun h => hcluster h.1]
  unfold recordTier
  dsimp only
  cases t.verdict with
  | none => exact hdecision
  | some v =>
    dsimp only
    rw [hverdict]
    exact hdecision

/-- **One decision for each tier of the cluster is counted**, and none of other clusters. -/
theorem figures_record (r : Recorder) {o : Outcome} (htier : ∀ t, (o.tiers.get t).tier = t)
    (other : String) (u : Tier) :
    ((record r o).figures other).tiers.get u
      = if o.cluster = other then ((r.figures other).tiers.get u).after (o.tiers.get u).decision
        else (r.figures other).tiers.get u := by
  show ((recordTier (recordTier r o.cluster (o.tiers.get .primaries)) o.cluster
    (o.tiers.get .secondaries)).figures other).tiers.get u = _
  rw [figures_recordTier, figures_recordTier, htier, htier]
  by_cases hcluster : o.cluster = other
  · cases u <;> simp [hcluster]
  · rw [if_neg fun h => hcluster h.1, if_neg fun h => hcluster h.1, if_neg hcluster]

end Cycle

namespace Fleet

/-! ## Results are recorded as they are added -/

/-- The figures after outcomes. Nothing is recorded of those of cancelled cycles. -/
def recordAll (r : Recorder) (os : List (Nat × Outcome)) : Recorder :=
  (os.filter fun o => !o.2.cancelled).foldl (fun r o => Cycle.record r o.2) r

/-- From one fleet to a later one results are added and recorded, and nothing else is recorded. -/
structure Adds (f f' : Fleet) (added : List (Nat × Outcome)) : Prop where
  /-- The results are added. -/
  outcomes : f'.outcomes = f.outcomes ++ added
  /-- They are recorded, if anybody records. -/
  recorder : f'.recorder = f.recorder.map fun r => recordAll r added

/-- Nothing that is remembered about clusters differs between two fleets. -/
structure Untouched (f f' : Fleet) : Prop where
  /-- The histories of every cluster are the same. -/
  histories : ∀ key, f'.histories.histories key = f.histories.histories key
  /-- All figures are the same. -/
  recorder : f'.recorder = f.recorder

section

variable {f f' f'' : Fleet} {added more : List (Nat × Outcome)}

/-- Where no result is added, none is recorded. -/
theorem Adds.nil (houtcomes : f'.outcomes = f.outcomes) (hrecorder : f'.recorder = f.recorder) :
    Adds f f' [] where
  outcomes := houtcomes.trans (List.append_nil _).symm
  recorder := by
    rw [hrecorder]
    exact Option.map_id'.symm

/-- Results that are added one after the other are recorded in that order. -/
theorem Adds.trans (h : Adds f f' added) (h' : Adds f' f'' more) : Adds f f'' (added ++ more) where
  outcomes := by rw [h'.outcomes, h.outcomes, List.append_assoc]
  recorder := by
    rw [h'.recorder, h.recorder, Option.map_map]
    unfold recordAll
    simp only [List.filter_append, List.foldl_append]
    rfl

/-- Cancelled cycles leave the figures as they are. -/
theorem Adds.recorder_eq (h : Adds f f' added) (hall : ∀ o ∈ added, o.2.cancelled = true) :
    f'.recorder = f.recorder := by
  have hnone : added.filter (fun o => !o.2.cancelled) = [] :=
    List.filter_eq_nil_iff.mpr fun o ho => by rw [hall o ho]; exact Bool.false_ne_true
  rw [h.recorder]
  unfold recordAll
  rw [hnone]
  exact Option.map_id'

theorem Untouched.refl (f : Fleet) : Untouched f f := ⟨fun _ => rfl, rfl⟩

theorem Untouched.trans (h : Untouched f f') (h' : Untouched f' f'') : Untouched f f'' :=
  ⟨fun key => (h'.histories key).trans (h.histories key), h'.recorder.trans h.recorder⟩

end

/-- A cycle that is cancelled is added to the results. -/
theorem adds_abandon {f f' : Fleet} (houtcomes : f'.outcomes = f.outcomes)
    (hrecorder : f'.recorder = f.recorder) (call : CycleCall) :
    ∃ added, Adds f (f'.abandon call) added := by
  refine ⟨[(call.id, Cycle.cancelled call.cluster.key call.live call.now)], ?_, ?_⟩
  · rw [← houtcomes]
    rfl
  · rw [← hrecorder]
    exact Option.map_id'.symm

/-- A cycle that ends with decisions is recorded. -/
theorem adds_commit (f : Fleet) (call : CycleCall) (book : Nat) {o : Outcome}
    (ho : o.cancelled = false) : ∃ added, Adds f (f.commit call book o) added := by
  refine ⟨[(call.id, o)], rfl, ?_⟩
  unfold recordAll
  rw [List.filter_cons_of_pos (by rw [ho]; rfl)]
  rfl

/-- **An event records the results that it adds**, but for those of cancelled cycles. -/
theorem adds_step (f : Fleet) (now : Moment) (e : Event) :
    ∃ added, Adds f (f.step now e) added := by
  cases e with
  | request call cancelled =>
    cases cancelled with
    | true => exact adds_abandon rfl rfl call
    | false => exact ⟨[], .nil rfl rfl⟩
  | collector key e => exact ⟨[], .nil rfl rfl⟩
  | look id | begin id | queue id =>
    unfold step
    dsimp only
    split <;> exact ⟨[], .nil rfl rfl⟩
  | enter id =>
    unfold step
    dsimp only
    split
    · split <;> exact ⟨[], .nil rfl rfl⟩
    · exact ⟨[], .nil rfl rfl⟩
  | advise id advice =>
    unfold step
    dsimp only
    split
    · exact adds_commit f _ _ rfl
    · exact ⟨[], .nil rfl rfl⟩
  | resume id =>
    unfold step
    dsimp only
    split
    · split
      · unfold resume
        split
        · exact @adds_abandon f (f.dismiss _) rfl rfl _
        · exact adds_commit f _ _ rfl
        · dsimp only
          split
          · exact ⟨[], .nil rfl rfl⟩
          · exact adds_commit f _ _ rfl
      · exact ⟨[], .nil rfl rfl⟩
    · exact ⟨[], .nil rfl rfl⟩
  | cancel id =>
    unfold step
    dsimp only
    split
    · unfold cancel
      split
      · exact ⟨[], .nil rfl rfl⟩
      · exact @adds_abandon f (f.dismiss _) rfl rfl _
    · exact ⟨[], .nil rfl rfl⟩

/-! ## All or nothing -/

/-- An event ends a cycle: it is under way no more, or has never been because it is cancelled from
the outset. -/
def Ends (f : Fleet) (e : Event) (f' : Fleet) (call : CycleCall) : Prop :=
  (f.visits.map Visit.call).Perm (call :: f'.visits.map Visit.call)
    ∨ e = .request call true ∧ f'.visits = f.visits

/-- All that is remembered of a cycle that ends with decisions. -/
structure Committed (f f' : Fleet) (call : CycleCall) (o : Outcome) : Prop where
  /-- Each tier is moved from its live count in the direction of its target. -/
  action : ∀ t, (o.tiers.get t).decision.action
    = .between (call.live.replicas.get t) (o.tiers.get t).decision.target
  /-- For each tier one move is pushed, and moves that are too old are forgotten. -/
  pushed : ∀ t, (f'.histories.histories call.cluster.key).get t
    = (((f.histories.histories call.cluster.key).get t).push
        ⟨.between (call.live.replicas.get t) (o.tiers.get t).decision.target,
          call.live.replicas.get t, (o.tiers.get t).decision.target, call.now⟩).prune call.now
        (Cycle.retention f.settings)
  /-- The histories of other clusters stay as they are. -/
  others : ∀ key, call.cluster.key ≠ key → f'.histories.histories key = f.histories.histories key
  /-- For each tier one decision is counted, if anybody records, and none of other clusters. -/
  counted : ∀ r, f.recorder = some r → ∃ r', f'.recorder = some r' ∧ ∀ key t,
    (r'.figures key).tiers.get t
      = if call.cluster.key = key then ((r.figures key).tiers.get t).after (o.tiers.get t).decision
        else (r.figures key).tiers.get t
  /-- If the collection has failed, both tiers stay as they are, and the times of their latest
  changes do too. -/
  unavailable : ∀ fault, f.collector.answer? call.id = some (.error fault) →
    o.Holds call.live ∧ ∀ t, ((f'.histories.histories call.cluster.key).get t).lastChange
      = ((f.histories.histories call.cluster.key).get t).lastChange

/-- What an event leaves of cycles: all or nothing. -/
inductive AllOrNothing (f : Fleet) (e : Event) (f' : Fleet) : Prop where
  /-- No cycle ends, and nothing is remembered. -/
  | still (houtcomes : f'.outcomes = f.outcomes) (huntouched : Untouched f f')
  /-- A cycle is cancelled. Both its tiers stay as they are, and nothing is remembered. -/
  | withdrawn (call : CycleCall) (o : Outcome) (hends : Ends f e f' call)
      (houtcomes : f'.outcomes = f.outcomes ++ [(call.id, o)]) (hcancelled : o.cancelled = true)
      (hholds : o.Holds call.live) (huntouched : Untouched f f')
  /-- A cycle ends with decisions, and all of them are remembered. -/
  | committed (call : CycleCall) (o : Outcome) (hends : Ends f e f' call)
      (houtcomes : f'.outcomes = f.outcomes ++ [(call.id, o)]) (hcancelled : o.cancelled = false)
      (hcommitted : Committed f f' call o)

section

variable {f f' : Fleet} {v : Visit} {rest : List Visit} {e : Event} {sight : Sight}
variable {added : List (Nat × Outcome)}

/-- A cycle is refused only if it is requested and cancelled at once. -/
theorem eq_request_of_see {call : CycleCall} (h : f.see e = .refused call) :
    e = .request call true := by
  cases e with
  | request other cancelled =>
    cases cancelled with
    | true =>
      cases h
      rfl
    | false => cases h
  | enter id | resume id =>
    unfold see at h
    dsimp only at h
    split at h
    · split at h <;> cases h
    · cases h
  | advise id | cancel id =>
    unfold see at h
    dsimp only at h
    split at h <;> cases h
  | _ => cases h

/-- A cycle that leaves the others behind has ended. -/
theorem ends_of_perm (hperm : f.visits.Perm (v :: rest)) (hvisits : f'.visits = rest) :
    Ends f e f' v.call := by
  rw [← hvisits] at hperm
  exact .inl (hperm.map Visit.call)

/-- A cycle that is cancelled leaves nothing. -/
theorem Adds.withdrawn (hadds : Adds f f' added) (hhistories : f'.histories = f.histories)
    {call : CycleCall} (hends : Ends f e f' call)
    (houtcomes : f'.outcomes
      = f.outcomes ++ [(call.id, Cycle.cancelled call.cluster.key call.live call.now)]) :
    AllOrNothing f e f' := by
  have hadded := List.append_cancel_left (hadds.outcomes.symm.trans houtcomes)
  refine .withdrawn call _ hends houtcomes rfl ?_ ⟨fun key => by rw [hhistories], ?_⟩
  · exact Cycle.holds_cancelled call.cluster.key call.live call.now
  · refine hadds.recorder_eq fun o ho => ?_
    rw [hadded] at ho
    cases List.mem_singleton.mp ho
    rfl

/-- A cycle that ends with decisions leaves them all. -/
theorem Adds.committed (hadds : Adds f f' added) {call : CycleCall} {book : Nat} {o : Outcome}
    {told : Told} {advised : Option Advice → Prop}
    (hbook : f.histories.book? call.cluster.key = some book)
    (haccounts : Accounts f.settings (f.collector.answer? call.id) advised call
      (f.histories.histories call.cluster.key) told)
    (ho : o = Cycle.outcome f.settings call.cluster.key call.live
      (f.histories.histories call.cluster.key) call.now told)
    (hhistories : f'.histories = f.histories.write book (Cycle.remember f.settings call.live o
      (f.histories.histories call.cluster.key) call.now))
    (houtcomes : f'.outcomes = f.outcomes ++ [(call.id, o)]) : Committed f f' call o := by
  have haction (t : Tier) : (o.tiers.get t).decision.action
      = .between (call.live.replicas.get t) (o.tiers.get t).decision.target := by
    rw [ho, Cycle.action_outcome]
  have hpushed (t : Tier) : (f'.histories.histories call.cluster.key).get t
      = (((f.histories.histories call.cluster.key).get t).push
          ⟨.between (call.live.replicas.get t) (o.tiers.get t).decision.target,
            call.live.replicas.get t, (o.tiers.get t).decision.target, call.now⟩).prune call.now
          (Cycle.retention f.settings) := by
    rw [hhistories, HistoryStore.histories_write hbook, if_pos rfl, Cycle.remember,
      PerTier.get_ofFun, Move.ofDecision, haction, ho, Cycle.timestamp_outcome]
  refine ⟨haction, hpushed, fun key hkey => ?_, fun r hr => ⟨Cycle.record r o, ?_, fun key t => ?_⟩,
    fun fault hanswer => ?_⟩
  · rw [hhistories, HistoryStore.histories_write hbook, if_neg hkey]
  · have hcancelled : o.cancelled = false := by
      rw [ho, Cycle.cancelled_outcome, haccounts.commits]
      rfl
    rw [hadds.recorder, hr, List.append_cancel_left (hadds.outcomes.symm.trans houtcomes)]
    unfold recordAll
    rw [List.filter_cons_of_pos (by rw [hcancelled]; rfl)]
    rfl
  · rw [ho, Cycle.figures_record r (Cycle.tier_outcome _ _ _ _ _ told), Cycle.cluster_outcome]
  · cases told with
    | cancelled => exact haccounts.elim
    | readings snapshot offered => cases hanswer.symm.trans haccounts.1
    | unavailable other =>
      have hholds : o.Holds call.live := ho ▸ Cycle.holds_unavailable _ _ _ _ _ other
      refine ⟨hholds, fun t => ?_⟩
      -- a move to stay is no change
      rw [hpushed, (hholds t).2, Action.between_self, History.lastChange_prune]
      rfl

/-- **Of a cycle everything is remembered at its end, or nothing.** -/
theorem Transition.allOrNothing (hf : f.Orderly) (ht : Transition f e f' sight)
    (hsight : f.see e = sight) (hadds : Adds f f' added) : AllOrNothing f e f' := by
  have hnone (houtcomes : f'.outcomes = f.outcomes) : f'.recorder = f.recorder := by
    have hadded : added = [] :=
      List.append_cancel_left ((hadds.outcomes.symm.trans houtcomes).trans (List.append_nil _).symm)
    exact hadds.recorder_eq fun o ho => absurd (hadded ▸ ho) List.not_mem_nil
  cases ht with
  | still _ hh ho | request _ _ hh ho | enter _ _ _ _ _ _ hh ho | ask _ _ _ _ _ _ _ _ hh ho =>
    exact .still ho ⟨fun key => by rw [hh], hnone ho⟩
  | approach _ _ _ _ _ _ _ _ hh ho =>
    refine .still ho ⟨fun key => ?_, hnone ho⟩
    rcases hh with hh | hh
    · rw [hh]
    · rw [hh, HistoryStore.histories_provide]
  | refuse call hv hh ho => exact hadds.withdrawn hh (.inr ⟨eq_request_of_see hsight, hv⟩) ho
  | leave v rest hperm hv hh ho => exact hadds.withdrawn hh (ends_of_perm hperm hv) ho
  | commit v rest book told hperm hv hheld haccounts hh ho =>
    rw [← hf.histories_eq hperm hheld] at haccounts hh ho
    refine .committed v.call _ (ends_of_perm hperm hv) ho ?_
      (hadds.committed (hf.booked v (mem_of_perm hperm).1 book (Station.book?_of_held? hheld))
        haccounts rfl hh ho)
    rw [Cycle.cancelled_outcome, haccounts.commits]
    rfl

end

/-! ## Whole runs -/

/-- A run of an orderly fleet leaves it orderly. -/
theorem Orderly.run {f : Fleet} (hf : f.Orderly) (es : List (Moment × Event)) :
    (f.run es).Orderly := by
  induction es generalizing f with
  | nil => exact hf
  | cons e es ih => exact ih (hf.step e.1 e.2)

/-- One more event. -/
theorem run_take_succ (f : Fleet) {es : List (Moment × Event)} {i : Nat} {e : Moment × Event}
    (h : es[i]? = some e) : f.run (es.take (i + 1)) = (f.run (es.take i)).step e.1 e.2 := by
  unfold run
  rw [List.take_add_one, h, List.foldl_append]
  rfl

/-- **An event leaves all of the cycle that it ends, or nothing.** -/
theorem Orderly.allOrNothing {f : Fleet} (hf : f.Orderly) (now : Moment) (e : Event) :
    AllOrNothing f e (f.step now e) := by
  obtain ⟨added, hadds⟩ := f.adds_step now e
  exact (step_transition hf now e).allOrNothing hf rfl hadds

/-- An event that ends no cycle, or one that is cancelled, leaves nothing. -/
theorem AllOrNothing.untouched {f f' : Fleet} {e : Event} {added : List (Nat × Outcome)}
    (h : AllOrNothing f e f') (hadds : Adds f f' added)
    (hall : ∀ o ∈ added, o.2.cancelled = true) : Untouched f f' := by
  cases h with
  | still _ huntouched => exact huntouched
  | withdrawn _ _ _ _ _ _ huntouched => exact huntouched
  | committed call o _ houtcomes hkept =>
    have hadded := List.append_cancel_left (hadds.outcomes.symm.trans houtcomes)
    have hcancelled := hall (call.id, o) (hadded ▸ List.mem_singleton_self _)
    rw [hkept] at hcancelled
    cases hcancelled

/-- **A run records the results that it adds**, and if all of them are those of cancelled cycles,
it leaves nothing. -/
theorem Orderly.adds_run {f : Fleet} (hf : f.Orderly) (es : List (Moment × Event)) :
    ∃ added, Adds f (f.run es) added
      ∧ ((∀ o ∈ added, o.2.cancelled = true) → Untouched f (f.run es)) := by
  -- on the events, with the fleet free: an event leaves another fleet, which is orderly again
  induction es generalizing f with
  | nil => exact ⟨[], .nil rfl rfl, fun _ => .refl f⟩
  | cons e es ih =>
    obtain ⟨first, hfirst⟩ := f.adds_step e.1 e.2
    obtain ⟨rest, hrest, huntouched⟩ := ih (hf.step e.1 e.2)
    refine ⟨first ++ rest, hfirst.trans hrest, fun hall => ?_⟩
    obtain ⟨hall, hmore⟩ := List.forall_mem_append.mp hall
    exact ((hf.allOrNothing e.1 e.2).untouched hfirst hall).trans (huntouched hmore)

/-- **A cycle commits whole or leaves no trace.** Whatever happens to a fleet, in whatever order, an
event ends a cycle with decisions and remembers one move and one decision for each tier, or it ends
a cancelled cycle, or none, and remembers nothing. So the figures that a run leaves are those of the
results that it adds, without those of cancelled cycles, and a run in which every cycle that ends is
cancelled leaves no trace. -/
theorem cycles_all_or_nothing {f : Fleet} (hf : f.Orderly) (es : List (Moment × Event)) :
    (∀ i now e, es[i]? = some (now, e) →
        AllOrNothing (f.run (es.take i)) e (f.run (es.take (i + 1))))
      ∧ ∃ added, Adds f (f.run es) added
        ∧ ((∀ o ∈ added, o.2.cancelled = true) → Untouched f (f.run es)) := by
  refine ⟨fun i now e hi => ?_, hf.adds_run es⟩
  rw [run_take_succ f hi]
  exact (hf.run (es.take i)).allOrNothing now e

/-- All sources of a tier fail. The cycle ends with decisions to stay, and leaves them all. -/
theorem cycles_all_or_nothing_unavailable :
    let call : CycleCall := ⟨1, ⟨"db", "main", .both [], none⟩, ⟨⟨3, 2⟩, 3⟩, 0⟩
    let f := start (.ofTiers (.ofBounds 3 7) (.ofBounds 1 9)) (some .empty)
    let es : List (Moment × Event) := [.request call false, .look 1, .begin 1, .queue 1, .enter 1,
      .collector "db/main" (.queue 1), .collector "db/main" (.enter [⟨"p", .primaries⟩]),
      .collector "db/main" .launch,
      .collector "db/main" (.finish "p" (.failed (.sourceFailed "p" "down"))),
      .collector "db/main" .settle, .resume 1].map (⟨0, 0⟩, ·)
    ∃ call o, (f.run es).outcomes = [(call.id, o)] ∧ o.cancelled = false
      ∧ Committed (f.run (es.take 10)) (f.run es) call o := by
  intro call f es
  have hone : (f.run es).outcomes.map (fun o => o.2.cancelled) = [false] := by
    decide +kernel
  have hnone : (f.run (es.take 10)).outcomes = [] :=
    List.eq_nil_of_length_eq_zero (by decide +kernel)
  have hlast : es[10]? = some (⟨0, 0⟩, .resume 1) := rfl
  have hall : es.take (10 + 1) = es := rfl
  have hstep := (cycles_all_or_nothing (orderly_start _ _ : f.Orderly) es).1 10 _ _ hlast
  rw [hall] at hstep
  generalize f.run es = after at hone hstep ⊢
  generalize f.run (es.take 10) = before at hnone hstep ⊢
  cases hstep with
  | still houtcomes =>
    rw [houtcomes, hnone] at hone
    cases hone
  | withdrawn call o _ houtcomes hcancelled =>
    rw [houtcomes, hnone, List.nil_append, List.map_singleton, hcancelled] at hone
    cases hone
  | committed call o _ houtcomes hcancelled hcommitted =>
    rw [hnone, List.nil_append] at houtcomes
    exact ⟨call, o, houtcomes, hcancelled, hcommitted⟩

end Fleet

end ClusterScaling
