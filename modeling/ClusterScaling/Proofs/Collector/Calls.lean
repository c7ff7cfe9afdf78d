import ClusterScaling.Proofs.Averaging.Readings
import ClusterScaling.Proofs.Collector.Circuits
import Mathlib.Data.List.Nodup

/-!
# A fetch asks a source once, if its circuit allows it

In a fetch that completes each source that is listed has its turn once.
What it takes is `Fetch.Course`: the source waits for its turn, then it is
skipped, or it is asked and comes to its end. Whether it is asked is
settled by its circuit, and this has heard of nothing but the source, in
this cluster and in earlier fetches, since the fetch began
(`Collector.called_once`). A source that is skipped counts as one that has
failed.

The course of a source is followed motion by motion. Every motion concerns
one source, and since a fetch deals with no source twice, it leaves the
courses of all others as they are (`Fetch.Others`).
-/

namespace ClusterScaling

namespace Fetch

variable {l : BreakerLimits} {circuit : Circuit} {f f' : Fetch} {r : SourceRef}
variable {notes : List (Nat × Slot.Note)}

/-- How far a fetch has got with a source whose circuit it has found in some state, and what has
been heard of the source since. -/
inductive Course (l : BreakerLimits) (circuit : Circuit) (f : Fetch) (r : SourceRef) :
    List (Nat × Slot.Note) → Prop where
  /-- Its turn has not come. -/
  | waiting (h : r ∈ f.pending) : Course l circuit f r []
  /-- It is being asked. -/
  | running (turn : Nat) (hadmits : (circuit.allow l turn).1 = true) (h : r ∈ f.running) :
      Course l circuit f r [(turn, .asked)]
  /-- Its circuit has not allowed it to be asked. -/
  | skipped (turn : Nat) (hrefuses : (circuit.allow l turn).1 = false)
      (h : ⟨r, .error (.circuitOpen r.id)⟩ ∈ f.outcomes) : Course l circuit f r [(turn, .skipped)]
  /-- It has reported. -/
  | succeeded (turn later : Nat) (hadmits : (circuit.allow l turn).1 = true) (report : Report)
      (h : ⟨r, .ok report⟩ ∈ f.outcomes) :
      Course l circuit f r [(turn, .asked), (later, .succeeded)]
  /-- It has failed. -/
  | failed (turn later : Nat) (hadmits : (circuit.allow l turn).1 = true) (fault : Fault)
      (h : ⟨r, .error fault⟩ ∈ f.outcomes) :
      Course l circuit f r [(turn, .asked), (later, .failed)]
  /-- Its task has died, and it is not dealt with any more. -/
  | died (turn later : Nat) (hadmits : (circuit.allow l turn).1 = true)
      (h : r.id ∉ f.handled.map (·.id)) : Course l circuit f r [(turn, .asked), (later, .died)]

/-! ## Sources are told apart -/

/-- No identity stands twice among the outcomes, the sources being asked and those that wait. -/
theorem Once.apart (honce : f.Once) :
    (f.outcomes.map (·.source.id) ++ (f.running.map (·.id) ++ f.pending.map (·.id))).Nodup := by
  unfold Once handled at honce
  rwa [List.map_append, List.map_append, List.map_map] at honce

theorem Once.running_pending (honce : f.Once) {x y : SourceRef} (hx : x ∈ f.running)
    (hy : y ∈ f.pending) : x.id ≠ y.id :=
  (List.nodup_append.mp (List.nodup_append.mp honce.apart).2.1).2.2 x.id
    (List.mem_map_of_mem hx) y.id (List.mem_map_of_mem hy)

theorem Once.outcome_running (honce : f.Once) {o : SourceOutcome} (ho : o ∈ f.outcomes)
    {y : SourceRef} (hy : y ∈ f.running) : o.source.id ≠ y.id :=
  (List.nodup_append.mp honce.apart).2.2 o.source.id (List.mem_map_of_mem ho) y.id
    (List.mem_append_left _ (List.mem_map_of_mem hy))

theorem Once.outcome_pending (honce : f.Once) {o : SourceOutcome} (ho : o ∈ f.outcomes)
    {y : SourceRef} (hy : y ∈ f.pending) : o.source.id ≠ y.id :=
  (List.nodup_append.mp honce.apart).2.2 o.source.id (List.mem_map_of_mem ho) y.id
    (List.mem_append_right _ (List.mem_map_of_mem hy))

theorem Once.running_inj (honce : f.Once) {x y : SourceRef} (hx : x ∈ f.running)
    (hy : y ∈ f.running) (hid : x.id = y.id) : x = y :=
  List.inj_on_of_nodup_map
    (List.nodup_append.mp (List.nodup_append.mp honce.apart).2.1).1 hx hy hid

theorem Once.pending_inj (honce : f.Once) {x y : SourceRef} (hx : x ∈ f.pending)
    (hy : y ∈ f.pending) (hid : x.id = y.id) : x = y :=
  List.inj_on_of_nodup_map
    (List.nodup_append.mp (List.nodup_append.mp honce.apart).2.1).2.1 hx hy hid

theorem Once.outcome_inj (honce : f.Once) {o o' : SourceOutcome} (ho : o ∈ f.outcomes)
    (ho' : o' ∈ f.outcomes) (hid : o.source.id = o'.source.id) : o = o' :=
  List.inj_on_of_nodup_map (List.nodup_append.mp honce.apart).1 ho ho' hid

/-- A fetch has dealt with one source, and is where it was with all others. -/
structure Others (id : String) (f f' : Fetch) : Prop where
  /-- Other sources wait still. -/
  pending : ∀ x ∈ f.pending, id ≠ x.id → x ∈ f'.pending
  /-- Other sources are being asked still. -/
  running : ∀ x ∈ f.running, id ≠ x.id → x ∈ f'.running
  /-- What became of other sources is known still. -/
  outcomes : ∀ o ∈ f.outcomes, o ∈ f'.outcomes
  /-- Nothing is dealt with anew. -/
  handled : ∀ x ∈ f'.handled, x ∈ f.handled

/-- **What happens to one source leaves the courses of all others as they are.** -/
theorem Course.of_others {id : String} (hc : Course l circuit f r notes)
    (hothers : Others id f f') (hne : id ≠ r.id) : Course l circuit f' r notes := by
  cases hc with
  | waiting h => exact .waiting (hothers.pending r h hne)
  | running turn hadmits h => exact .running turn hadmits (hothers.running r h hne)
  | skipped turn hrefuses h => exact .skipped turn hrefuses (hothers.outcomes _ h)
  | succeeded turn later hadmits report h =>
    exact .succeeded turn later hadmits report (hothers.outcomes _ h)
  | failed turn later hadmits fault h =>
    exact .failed turn later hadmits fault (hothers.outcomes _ h)
  | died turn later hadmits h =>
    refine .died turn later hadmits fun hmem => h ?_
    obtain ⟨x, hx, hid⟩ := List.mem_map.mp hmem
    exact hid ▸ List.mem_map_of_mem (hothers.handled x hx)

/-- A source whose turn comes has waited until then. -/
theorem Course.of_pending (hc : Course l circuit f r notes) (honce : f.Once) {x : SourceRef}
    (hx : x ∈ f.pending) (hid : x.id = r.id) : notes = [] ∧ x = r := by
  cases hc with
  | waiting h => exact ⟨rfl, honce.pending_inj hx h hid⟩
  | running _ _ h => exact absurd hid.symm (honce.running_pending h hx)
  | skipped _ _ h | succeeded _ _ _ _ h | failed _ _ _ _ h =>
    exact absurd hid.symm (honce.outcome_pending h hx)
  | died _ _ _ h =>
    refine absurd ?_ h
    rw [← hid]
    exact List.mem_map_of_mem (List.mem_append_right _ (List.mem_append_right _ hx))

/-- A source that comes to its end has been asked. -/
theorem Course.of_running (hc : Course l circuit f r notes) (honce : f.Once) {x : SourceRef}
    (hx : x ∈ f.running) (hid : x.id = r.id) :
    ∃ turn, notes = [(turn, .asked)] ∧ (circuit.allow l turn).1 = true ∧ x = r := by
  cases hc with
  | waiting h => exact absurd hid (honce.running_pending hx h)
  | running turn hadmits h => exact ⟨turn, rfl, hadmits, honce.running_inj hx h hid⟩
  | skipped _ _ h | succeeded _ _ _ _ h | failed _ _ _ _ h =>
    exact absurd hid.symm (honce.outcome_running h hx)
  | died _ _ _ h =>
    refine absurd ?_ h
    rw [← hid]
    exact List.mem_map_of_mem (List.mem_append_right _ (List.mem_append_left _ hx))

/-- A source that was heard to succeed has reported. -/
theorem Course.exists_report (hc : Course l circuit f r notes) {later : Nat}
    (h : (later, .succeeded) ∈ notes) : ∃ report, ⟨r, .ok report⟩ ∈ f.outcomes := by
  cases hc with
  | succeeded _ _ _ report hreport => exact ⟨report, hreport⟩
  | _ => simp at h

/-- A source that has reported was heard to succeed. -/
theorem Course.of_report (hc : Course l circuit f r notes) (honce : f.Once) {report : Report}
    (h : ⟨r, .ok report⟩ ∈ f.outcomes) : ∃ later, (later, .succeeded) ∈ notes := by
  cases hc with
  | waiting hr => exact absurd rfl (honce.outcome_pending h hr)
  | running _ _ hr => exact absurd rfl (honce.outcome_running h hr)
  | skipped _ _ ho | failed _ _ _ _ ho => cases honce.outcome_inj h ho rfl
  | succeeded _ later => exact ⟨later, by simp⟩
  | died _ _ _ hnot =>
    exact absurd (List.mem_map_of_mem (List.mem_append_left _ (List.mem_map_of_mem h))) hnot

/-! ## The turn and the end of a source -/

section

variable {rest : List SourceRef} {x : SourceRef}

theorem others_turned (hpending : f.pending = x :: rest) (allowed : Bool) :
    Others x.id f (f.turned x rest allowed) where
  pending := fun y hy hne => by
    have hrest : y ∈ rest := by
      rw [hpending] at hy
      exact (List.mem_cons.mp hy).resolve_left fun h => hne (h ▸ rfl)
    cases allowed <;> exact hrest
  running := fun y hy _ => by
    cases allowed with
    | true => exact List.mem_append_left _ hy
    | false => exact hy
  outcomes := fun o ho => by
    cases allowed with
    | true => exact ho
    | false => exact List.mem_append_left _ ho
  handled := fun _ hy => (subperm_turned hpending allowed).subset hy

/-- **A source whose turn comes is asked if its circuit allows it, and else it is skipped.** -/
theorem Course.turned (hc : Course l circuit f r notes) (honce : f.Once)
    (hpending : f.pending = x :: rest) (hid : x.id = r.id) {turn : Nat} {allowed : Bool}
    (hallowed : notes = [] → (circuit.allow l turn).1 = allowed) :
    Course l circuit (f.turned x rest allowed) r
      (notes ++ [(turn, if allowed then .asked else .skipped)]) := by
  obtain ⟨rfl, rfl⟩ := hc.of_pending honce (hpending ▸ List.mem_cons_self) hid
  have hallowed := hallowed rfl
  unfold Fetch.turned
  cases allowed with
  | true => exact .running turn hallowed (List.mem_append_right _ (List.mem_singleton_self x))
  | false => exact .skipped turn hallowed (List.mem_append_right _ (List.mem_singleton_self _))

theorem others_done (c : CollectorSettings)
    (hfind : f.running.find? (fun other => other.id = x.id) = some x) (ending : Ending) :
    Others x.id f (f.done c x ending) where
  pending := fun _ hy _ => hy
  running := fun _ hy hne => List.mem_filter.mpr ⟨hy, decide_eq_true (Ne.symm hne)⟩
  outcomes := fun _ ho => List.mem_append_left _ ho
  handled := fun _ hy => (subperm_done c hfind ending).subset hy

/-- **A source that is asked comes to one end.** -/
theorem Course.done (hc : Course l circuit f r notes) (honce : f.Once) (c : CollectorSettings)
    (hfind : f.running.find? (fun other => other.id = x.id) = some x) (hid : x.id = r.id)
    (later : Nat) (ending : Ending) :
    Course l circuit (f.done c x ending) r (notes ++ [(later, .ofEnding ending)]) := by
  have hx : x ∈ f.running := List.mem_of_find?_eq_some hfind
  obtain ⟨turn, rfl, hadmits, rfl⟩ := hc.of_running honce hx hid
  cases ending with
  | reported report =>
    exact .succeeded turn later hadmits report
      (List.mem_append_right _ (List.mem_singleton_self _))
  | failed fault =>
    exact .failed turn later hadmits fault (List.mem_append_right _ (List.mem_singleton_self _))
  | timedOut =>
    exact .failed turn later hadmits _ (List.mem_append_right _ (List.mem_singleton_self _))
  | died =>
    refine .died turn later hadmits fun hmem => ?_
    -- the source was neither an outcome nor did it wait, and it is not being asked any more
    obtain ⟨y, hy, hyid⟩ := List.mem_map.mp hmem
    rcases List.mem_append.mp hy with hy | hy
    · obtain ⟨o, ho, rfl⟩ := List.mem_map.mp hy
      rcases List.mem_append.mp ho with ho | ho
      · exact honce.outcome_running ho hx hyid
      · cases ho
    · rcases List.mem_append.mp hy with hy | hy
      · exact of_decide_eq_true (List.mem_filter.mp hy).2 hyid
      · exact honce.running_pending hx hy hyid.symm

end

end Fetch

namespace Slot

variable {c : CollectorSettings} {now : Moment} {s s' : Slot} {e : Event}
variable {heard : Option (String × Note)} {f : Fetch}

/-- **A motion takes every source of a fetch one step further on its course**, or leaves it where it
is. -/
theorem Motion.course (hm : Motion c now s e s' heard) (honce : f.Once) (hfetch : s.fetch = some f)
    (hlasts : (s.see c now e).endsFetch f.call = false) :
    ∃ f', s'.fetch = some f' ∧ f'.call = f.call ∧ f'.sources = f.sources
      ∧ (∀ x ∈ f'.handled, x ∈ f.handled) ∧
      ∀ circuit r notes, s.circuit r.id = notes.foldl (Circuit.note c.breakerLimits) circuit →
        f.Course c.breakerLimits circuit r notes →
        f'.Course c.breakerLimits circuit r (notes ++ (noteOf r.id now heard).toList) := by
  cases hm with
  | still hkept =>
    exact ⟨f, hkept.trans hfetch, rfl, rfl, fun _ hx => hx, fun _ _ notes _ hc => by
      rwa [noteOf, Option.toList_none, List.append_nil]⟩
  | begin _ _ _ hfree => cases hfree.symm.trans hfetch
  | ended f' hfetch' hends =>
    cases Option.some.inj (hfetch.symm.trans hfetch')
    rw [hlasts] at hends
    cases hends
  | turn f' x rest allowed hfetch' hpending hallowed hturned =>
    cases Option.some.inj (hfetch.symm.trans hfetch')
    have hothers := Fetch.others_turned hpending allowed
    refine ⟨_, hturned, ?_, ?_, hothers.handled, fun circuit r notes hcircuit hc => ?_⟩
    · cases allowed <;> rfl
    · cases allowed <;> rfl
    · rw [noteOf]
      by_cases hid : x.id = r.id
      · rw [if_pos hid]
        refine hc.turned honce hpending hid fun hnone => ?_
        rw [hnone, ← hid] at hcircuit
        rw [← hallowed, hcircuit]
        rfl
      · rw [if_neg hid, Option.toList_none, List.append_nil]
        exact hc.of_others hothers hid
  | done f' x ending hfetch' hfind hdone =>
    cases Option.some.inj (hfetch.symm.trans hfetch')
    have hothers := Fetch.others_done c hfind ending
    refine ⟨_, hdone, rfl, rfl, hothers.handled, fun circuit r notes _ hc => ?_⟩
    rw [noteOf]
    by_cases hid : x.id = r.id
    · rw [if_pos hid]
      exact hc.done honce c hfind hid now.clock ending
    · rw [if_neg hid, Option.toList_none, List.append_nil]
      exact hc.of_others hothers hid

/-- A caller that is seen to start a fetch has one in flight, of the sources listed. -/
theorem Motion.fetch_of_began {call : Nat} {sources : List SourceRef}
    (hm : Motion c now s (.enter sources) s' heard)
    (ht : Transition c now s s' (.began call)) : s'.fetch = some (.ofSources call sources) := by
  cases ht with
  | begin _ _ hfree _ _ hholder =>
    have hnone := (holder?_eq_none_iff s).mp hfree
    cases hm with
    | still hkept =>
      unfold holder? at hholder
      rw [hkept, hnone] at hholder
      cases hholder
    | begin other listed he _ hfetch =>
      cases he
      unfold holder? at hholder
      rw [hfetch] at hholder
      cases hholder
      exact hfetch
    | ended f hfetch => cases hnone.symm.trans hfetch
    | turn f _ _ _ hfetch => cases hnone.symm.trans hfetch
    | done f _ _ hfetch => cases hnone.symm.trans hfetch

/-- A fetch that is seen to complete has dealt with every source, and its outcomes make the
result. -/
theorem complete_of_see {call : Nat} {result : Except Fault Snapshot}
    (h : s.see c now e = .completed call result) (hfetch : s.fetch = some f) :
    f.isComplete = true ∧ Averaging.snapshot f.sources f.outcomes now.wall = result := by
  cases e with
  | settle =>
    simp only [see, hfetch] at h
    split at h
    · next hcomplete =>
      cases h
      exact ⟨hcomplete, rfl⟩
    · cases h
  | cancel other | queue other =>
    unfold see at h
    dsimp only at h
    split at h <;> cases h
  | enter sources =>
    simp only [see, hfetch] at h
    cases h
  | _ => cases h

end Slot

/-! ## Whole fetches -/

namespace Collector

open Slot

section

variable {c : Collector} {key : String}

/-- **A fetch that lasts takes its sources along their courses**, as far as has been heard of
them. -/
theorem course_run (honce : c.Once key) {f : Fetch} (hfetch : (c.slot key).fetch = some f)
    {es : List Happening} (hlasts : ∀ e ∈ c.watch key es, e.2.endsFetch f.call = false) :
    ∃ f', ((c.run es).slot key).fetch = some f' ∧ f'.call = f.call ∧ f'.sources = f.sources
      ∧ (∀ x ∈ f'.handled, x ∈ f.handled) ∧ ∀ circuit r notes,
        (c.slot key).circuit r.id = notes.foldl (Circuit.note c.settings.breakerLimits) circuit →
        f.Course c.settings.breakerLimits circuit r notes →
        f'.Course c.settings.breakerLimits circuit r
          (notes ++ notesOf r.id (c.listen key es)) := by
  -- on the events, with the collector and its fetch free: an event leaves another fetch
  induction es generalizing c f with
  | nil =>
    exact ⟨f, hfetch, rfl, rfl, fun _ hx => hx, fun _ _ notes _ hc => by
      rwa [listen, notesOf, List.filterMap_nil, List.append_nil]⟩
  | cons e es ih =>
    obtain ⟨hnow, hrest⟩ := List.forall_mem_cons.mp hlasts
    have hm := step_motion honce e
    have hstep : ∃ f', ((c.step e.1 e.2.1 e.2.2).slot key).fetch = some f' ∧ f'.call = f.call
        ∧ f'.sources = f.sources ∧ (∀ x ∈ f'.handled, x ∈ f.handled) ∧ ∀ circuit r notes,
          (c.slot key).circuit r.id = notes.foldl (Circuit.note c.settings.breakerLimits) circuit →
          f.Course c.settings.breakerLimits circuit r notes →
          f'.Course c.settings.breakerLimits circuit r
            (notes ++ (noteOf r.id e.1 (c.hear key e)).toList) := by
      by_cases hkey : e.2.1 = key
      · refine hm.course (honce f hfetch) hfetch ?_
        unfold see at hnow
        rwa [if_pos hkey] at hnow
      · -- in another slot nothing happens to the fetch, and nothing is heard of its sources
        refine ⟨f, ?_, rfl, rfl, fun _ hx => hx, fun _ _ notes _ hc => ?_⟩
        · rw [slot_step_of_ne c e.1 hkey e.2.2, hfetch]
        · unfold hear
          rwa [if_neg hkey, noteOf, Option.toList_none, List.append_nil]
    obtain ⟨f', hfetch', hcall, hsources, hhandled, hcourse⟩ := hstep
    obtain ⟨f'', hfetch'', hcall', hsources', hhandled', hcourse'⟩ :=
      ih (honce.step e) hfetch' (by rw [hcall]; exact hrest)
    refine ⟨f'', hfetch'', hcall'.trans hcall, hsources'.trans hsources,
      fun x hx => hhandled x (hhandled' x hx), fun circuit r notes hcircuit hc => ?_⟩
    rw [listen, notesOf_cons, ← List.append_assoc]
    exact hcourse' circuit r _ (hm.replays hcircuit) (hcourse circuit r notes hcircuit hc)

theorem watch_drop (c : Collector) (key : String) (es : List Happening) (i : Nat) :
    (c.run (es.take i)).watch key (es.drop i) = (c.watch key es).drop i := by
  induction es generalizing c i with
  | nil => rw [List.drop_nil, watch, watch, List.drop_nil]
  | cons e es ih =>
    cases i with
    | zero => rfl
    | succ i => exact ih _ i

theorem listen_take (c : Collector) (key : String) (es : List Happening) (i : Nat) :
    c.listen key (es.take i) = (c.listen key es).take i := by
  induction es generalizing c i with
  | nil => rw [List.take_nil, listen, List.take_nil]
  | cons e es ih =>
    cases i with
    | zero => rfl
    | succ i => exact congrArg (_ :: ·) (ih _ i)

theorem listen_drop (c : Collector) (key : String) (es : List Happening) (i : Nat) :
    (c.run (es.take i)).listen key (es.drop i) = (c.listen key es).drop i := by
  induction es generalizing c i with
  | nil => rw [List.drop_nil, listen, listen, List.drop_nil]
  | cons e es ih =>
    cases i with
    | zero => rfl
    | succ i => exact ih _ i

end

/-- No source of a tier has reported in a fetch of the sources that are listed. -/
def Silent (sources : List SourceRef) (heard : Hearsay) (t : Tier) : Prop :=
  ∀ r ∈ distinct [] sources, r.tier = t → ∀ later, (later, .succeeded) ∉ notesOf r.id heard

/-- A source counts as one that has failed in the result of a fetch. -/
inductive CountsAsFailed (sources : List SourceRef) (heard : Hearsay) (r : SourceRef) :
    Except Fault Snapshot → Prop where
  /-- Another source of its tier has reported, and the snapshot is degraded. -/
  | degraded (snapshot : Snapshot) (hdegraded : snapshot.degraded = true)
      (hothers : ¬ Silent sources heard r.tier) : CountsAsFailed sources heard r (.ok snapshot)
  /-- No source of some tier has reported, although there are some, and there is no snapshot. -/
  | unavailable (t : Tier) (hlisted : ∃ x ∈ distinct [] sources, x.tier = t)
      (hsilent : Silent sources heard t) :
      CountsAsFailed sources heard r (.error (.metricsUnavailable t))

/-- What is heard of a source in a fetch that completes, if its circuit was in some state before. -/
inductive Called (l : BreakerLimits) (circuit : Circuit) (counts : Prop) :
    List (Nat × Note) → Prop where
  /-- Its circuit allows it to be asked. It is asked once, and comes to one end. -/
  | asked (turn later : Nat) (ending : Note) (hadmits : (circuit.allow l turn).1 = true)
      (hending : ending ∈ [Note.succeeded, .failed, .died]) :
      Called l circuit counts [(turn, .asked), (later, ending)]
  /-- Its circuit does not allow it to be asked. It is not, and counts as one that has failed. -/
  | skipped (turn : Nat) (hrefuses : (circuit.allow l turn).1 = false) (hcounts : counts) :
      Called l circuit counts [(turn, .skipped)]

variable {settings : CollectorSettings} {key : String} {es : List Happening}

/-- A fetch that begins finds the circuits as what was heard before has left them. -/
theorem slotAt_began {b p call : Nat} {now : Moment} {sources : List SourceRef}
    (hbegan : es[b]? = some (now, key, .enter sources))
    (hflight : InFlight ((start settings).watch key es) b call p) :
    ((start settings).slotAt key es (b + 1)).fetch = some (.ofSources call sources)
      ∧ ∀ id, ((start settings).slotAt key es (b + 1)).circuit id = .replay
        settings.breakerLimits (notesOf id (((start settings).listen key es).take b)) := by
  have hm := step_motion ((once_start settings key).run (es.take b)) (now, key, .enter sources)
  rw [settings_run, ← slotAt_succ (start settings) key hbegan] at hm
  have hquiet : ((start settings).run (es.take b)).hear key (now, key, .enter sources) = none :=
    if_pos rfl
  refine ⟨?_, fun id => ?_⟩
  · obtain ⟨later, hsaw⟩ := hflight.began
    have heq := hsaw
    rw [getElem?_watch, hbegan, Option.map_some, Option.some.injEq, Prod.mk.injEq] at heq
    obtain ⟨rfl, -⟩ := heq
    exact hm.fetch_of_began (transition_slotAt settings key es hsaw)
  · rw [hm.circuit id, hquiet, noteOf, ← listen_take, ← circuit_slotAt]
    rfl

/-- Nothing ends a fetch as long as it is in flight. -/
theorem lasts_of_inFlight {b p call : Nat}
    (hflight : InFlight ((start settings).watch key es) b call p) :
    ∀ e ∈ (((start settings).watch key es).take p).drop (b + 1), e.2.endsFetch call = false := by
  intro e he
  obtain ⟨k, hk⟩ := List.mem_iff_getElem?.mp he
  rw [List.getElem?_drop, List.getElem?_take] at hk
  split at hk
  · next hkp => exact hflight.lasts (b + 1 + k) e.2 (by omega) hkp ⟨e.1, hk⟩
  · cases hk

/-- A fetch that completes has dealt with each of its sources along its course. -/
theorem exists_complete {b p call : Nat} {now : Moment} {sources : List SourceRef}
    {result : Except Fault Snapshot} (hbegan : es[b]? = some (now, key, .enter sources))
    (hflight : InFlight ((start settings).watch key es) b call p)
    (hcompleted : Saw ((start settings).watch key es) p (.completed call result)) :
    ∃ (f : Fetch) (wall : UInt64), f.Once ∧ f.isComplete = true
      ∧ f.sources = distinct [] sources ∧ (∀ x ∈ f.handled, x ∈ f.sources)
      ∧ Averaging.snapshot f.sources f.outcomes wall = result
      ∧ ∀ r ∈ f.sources, f.Course settings.breakerLimits
          (.replay settings.breakerLimits (notesOf r.id (((start settings).listen key es).take b)))
          r (notesOf r.id ((((start settings).listen key es).take p).drop (b + 1))) := by
  have honce (i : Nat) : ((start settings).run (es.take i)).Once key :=
    (once_start settings key).run (es.take i)
  -- the fetch is in flight after the event with which it begins, and lasts from there up to the
  -- event with which it completes, which is a run of its own
  obtain ⟨hstarted, hcircuit⟩ := slotAt_began hbegan hflight
  have hsplit : (es.take p).take (b + 1) = es.take (b + 1) := by
    rw [List.take_take, Nat.min_eq_left hflight.lt]
  have hrun : ((start settings).run (es.take (b + 1))).run ((es.take p).drop (b + 1))
      = (start settings).run (es.take p) := by
    rw [← hsplit]
    unfold run
    rw [← List.foldl_append, List.take_append_drop]
  have hseen : ((start settings).run (es.take (b + 1))).watch key ((es.take p).drop (b + 1))
      = (((start settings).watch key es).take p).drop (b + 1) := by
    rw [← hsplit, watch_drop, watch_take]
  have hheard : ((start settings).run (es.take (b + 1))).listen key ((es.take p).drop (b + 1))
      = (((start settings).listen key es).take p).drop (b + 1) := by
    rw [← hsplit, listen_drop, listen_take]
  obtain ⟨f, hfetch, -, hsources, hhandled, hcourse⟩ :=
    course_run (honce (b + 1)) hstarted (hseen ▸ lasts_of_inFlight hflight)
  rw [hrun] at hfetch
  -- where it completes, its outcomes make the result
  obtain ⟨later, hsaw⟩ := hcompleted
  rw [getElem?_watch] at hsaw
  obtain ⟨e, -, heq⟩ := Option.map_eq_some_iff.mp hsaw
  have hsee := (Prod.mk.inj heq).2
  unfold see at hsee
  split at hsee
  · obtain ⟨hcomplete, hresult⟩ := complete_of_see hsee hfetch
    refine ⟨f, e.1.wall, honce p f hfetch, hcomplete, hsources, fun x hx => ?_, hresult,
      fun r hr => ?_⟩
    · rw [hsources]
      exact hhandled x hx
    · rw [hsources] at hr
      have hc := hcourse _ r [] (hcircuit r.id) (.waiting hr)
      rwa [settings_run, List.nil_append, hheard] at hc
  · cases hsee

/-- **A source is called once by a fetch that completes, if its circuit allows it.** -/
theorem called_once {b p call : Nat} {now : Moment} {sources : List SourceRef}
    {result : Except Fault Snapshot} (hbegan : es[b]? = some (now, key, .enter sources))
    (hflight : InFlight ((start settings).watch key es) b call p)
    (hcompleted : Saw ((start settings).watch key es) p (.completed call result))
    {r : SourceRef} (hr : r ∈ distinct [] sources) :
    Called settings.breakerLimits
      (.replay settings.breakerLimits (notesOf r.id (((start settings).listen key es).take b)))
      (CountsAsFailed sources ((((start settings).listen key es).take p).drop (b + 1)) r result)
      (notesOf r.id ((((start settings).listen key es).take p).drop (b + 1))) := by
  obtain ⟨f, wall, honce, hcomplete, hsources, hhandled, hresult, hcourse⟩ :=
    exists_complete hbegan hflight hcompleted
  obtain ⟨hpending, hrunning⟩ := Bool.and_eq_true_iff.mp hcomplete
  have hcounts (hskipped : ⟨r, .error (.circuitOpen r.id)⟩ ∈ f.outcomes) :
      CountsAsFailed sources ((((start settings).listen key es).take p).drop (b + 1)) r
        result := by
    cases result with
    | ok snapshot =>
      have hdegraded := (Averaging.degraded_snapshot hresult).mpr ⟨_, hskipped, rfl⟩
      refine .degraded snapshot hdegraded fun hsilent => ?_
      obtain ⟨o, ho, htier, hok⟩ := Averaging.succeeded_of_snapshot hresult (hsources ▸ hr)
      have hsource := hhandled o.source (List.mem_append_left _ (List.mem_map_of_mem ho))
      obtain ⟨source, outcome⟩ := o
      cases outcome with
      | error fault => cases hok
      | ok report =>
        obtain ⟨later, hmem⟩ := (hcourse source hsource).of_report honce ho
        exact hsilent source (hsources ▸ hsource) htier later hmem
    | error fault =>
      obtain ⟨t, rfl, hlisted, hfailed⟩ := Averaging.unavailable_of_snapshot hresult
      refine .unavailable t (hsources ▸ hlisted) fun x hx htier later hmem => ?_
      obtain ⟨report, ho⟩ := (hcourse x (hsources ▸ hx)).exists_report hmem
      cases hfailed _ ho htier
  have hc := hcourse r (hsources ▸ hr)
  generalize notesOf r.id ((((start settings).listen key es).take p).drop (b + 1)) = notes at hc ⊢
  cases hc with
  | waiting h =>
    rw [List.isEmpty_iff.mp hpending] at h
    cases h
  | running _ _ h =>
    rw [List.isEmpty_iff.mp hrunning] at h
    cases h
  | skipped turn hrefuses h => exact .skipped turn hrefuses (hcounts h)
  | succeeded turn later hadmits => exact .asked turn later _ hadmits (by decide)
  | failed turn later hadmits => exact .asked turn later _ hadmits (by decide)
  | died turn later hadmits => exact .asked turn later _ hadmits (by decide)

/-- What is heard of sources in the slot of a cluster does not depend on other slots. -/
theorem notesOf_listen_filter {c d : Collector} (hsettings : c.settings = d.settings)
    (hslot : c.slot key = d.slot key) (id : String) (es : List Happening) :
    notesOf id (c.listen key es)
      = notesOf id (d.listen key (es.filter fun e => e.2.1 == key)) := by
  -- on the events, with both collectors free: they agree about the slot, and not about others
  induction es generalizing c d with
  | nil => rfl
  | cons e es ih =>
    obtain ⟨now, other, e⟩ := e
    by_cases hkey : other = key
    · subst hkey
      rw [List.filter_cons_of_pos (p := fun e : Happening => e.2.1 == other)
        (beq_self_eq_true other), listen, listen, notesOf_cons,
        notesOf_cons]
      refine congr_arg₂ (· ++ ·) ?_ (ih (d := d.step now other e) hsettings ?_)
      · unfold hear
        rw [hslot, hsettings]
      · rw [slot_step, slot_step, hslot, hsettings]
    · rw [List.filter_cons_of_neg (by simpa using hkey), listen, notesOf_cons]
      unfold hear
      rw [if_neg hkey, noteOf, Option.toList_none, List.nil_append]
      exact ih hsettings ((slot_step_of_ne c now hkey e).trans hslot)

/-- **Sources are isolated from each other.** Whatever happens, a fetch that completes asks a source
that is listed if a circuit with the limits of the settings allows it, which has been fresh and has
heard of nothing but this source, in this cluster and before the fetch: in its turns whether it may
be asked, and how it has ended. It is asked once then. If it is not allowed to be, it counts as one
that has failed. What happens in other clusters, where a source may have the same identity, has no
effect. -/
theorem sources_isolated (settings : CollectorSettings) (key : String) (es : List Happening) :
    let heard := (start settings).listen key es
    let log := (start settings).watch key es
    (∀ b p call now sources result, es[b]? = some (now, key, .enter sources) →
        InFlight log b call p → Saw log p (.completed call result) → ∀ r ∈ distinct [] sources,
        Called settings.breakerLimits
          (.replay settings.breakerLimits (notesOf r.id (heard.take b)))
          (CountsAsFailed sources ((heard.take p).drop (b + 1)) r result)
          (notesOf r.id ((heard.take p).drop (b + 1))))
      ∧ ∀ id, notesOf id heard
          = notesOf id ((start settings).listen key (es.filter fun e => e.2.1 == key)) := by
  intro heard log
  refine ⟨fun b p call now sources result hbegan hflight hcompleted r hr => ?_, fun id => ?_⟩
  · exact called_once hbegan hflight hcompleted hr
  · exact notesOf_listen_filter rfl rfl id es

/-- Settings with which one failure opens a circuit, for ten nanoseconds. -/
def opensAtOnce : CollectorSettings := ⟨.zero, .ofSeconds 5, 4, 1, ⟨10, by decide⟩, 1⟩

/-- A source does not answer in time. A source with the same identity reports in another cluster.
Then the first one is listed twice more, before and after its circuit lets it try again. -/
def outage : List Happening :=
  let asked : Slot.Event := .enter [⟨"p", .primaries⟩]
  [(⟨0, 0⟩, "db/a", .arrive 1), (⟨0, 0⟩, "db/a", .queue 1), (⟨0, 0⟩, "db/a", asked),
    (⟨1, 0⟩, "db/a", .launch), (⟨2, 0⟩, "db/a", .finish "p" .timedOut), (⟨3, 0⟩, "db/a", .settle),
    (⟨3, 0⟩, "db/b", .arrive 2), (⟨3, 0⟩, "db/b", .queue 2), (⟨3, 0⟩, "db/b", asked),
    (⟨3, 0⟩, "db/b", .launch), (⟨4, 0⟩, "db/b", .finish "p" (.reported [])),
    (⟨5, 0⟩, "db/a", .arrive 3), (⟨5, 0⟩, "db/a", .queue 3), (⟨5, 0⟩, "db/a", asked),
    (⟨6, 0⟩, "db/a", .launch), (⟨6, 0⟩, "db/a", .settle), (⟨20, 0⟩, "db/a", .arrive 4),
    (⟨20, 0⟩, "db/a", .queue 4), (⟨20, 0⟩, "db/a", asked), (⟨20, 0⟩, "db/a", .launch),
    (⟨21, 0⟩, "db/a", .finish "p" (.reported [])), (⟨22, 0⟩, "db/a", .settle)]

/-- What is heard of the source in its cluster. It is asked, skipped, and asked again. -/
example : notesOf "p" ((start opensAtOnce).listen "db/a" outage)
    = [(1, .asked), (2, .failed), (6, .skipped), (20, .asked), (21, .succeeded)] := by
  decide +kernel

/-- The fetch that skips the source has no other one. -/
theorem sources_isolated_outage :
    let heard := (start opensAtOnce).listen "db/a" outage
    outage[13]? = some (⟨5, 0⟩, "db/a", .enter [⟨"p", .primaries⟩])
      ∧ InFlight ((start opensAtOnce).watch "db/a" outage) 13 3 15
      ∧ Saw ((start opensAtOnce).watch "db/a" outage) 15
          (.completed 3 (.error (.metricsUnavailable .primaries)))
      ∧ notesOf "p" ((heard.take 15).drop 14) = [(6, .skipped)]
      ∧ ∀ r ∈ distinct [] [⟨"p", .primaries⟩],
        Called opensAtOnce.breakerLimits
          (.replay opensAtOnce.breakerLimits (notesOf r.id (heard.take 13)))
          (CountsAsFailed [⟨"p", .primaries⟩] ((heard.take 15).drop 14) r
            (.error (.metricsUnavailable .primaries)))
          (notesOf r.id ((heard.take 15).drop 14)) := by
  intro heard
  have hbegan : outage[13]? = some (⟨5, 0⟩, "db/a", .enter [⟨"p", .primaries⟩]) := rfl
  have hflight : InFlight ((start opensAtOnce).watch "db/a" outage) 13 3 15 :=
    inFlight_of_all ⟨⟨5, 0⟩, by with_unfolding_all rfl⟩ (by decide) (by with_unfolding_all rfl)
  have hcompleted : Saw ((start opensAtOnce).watch "db/a" outage) 15
      (.completed 3 (.error (.metricsUnavailable .primaries))) :=
    ⟨⟨6, 0⟩, by with_unfolding_all rfl⟩
  exact ⟨hbegan, hflight, hcompleted, by decide +kernel,
    (sources_isolated opensAtOnce "db/a" outage).1 13 15 3 _ _ _ hbegan hflight hcompleted⟩

end Collector

end ClusterScaling
