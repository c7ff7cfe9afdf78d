import ClusterScaling.Proofs.Collector.Log
import Mathlib.Data.List.Perm.Subperm

/-!
# What snapshots are gathered from

A snapshot that a caller is told was gathered by a fetch, its own or
another one's. Whatever the order in which sources get their turn, answer,
fail or die, each source is dealt with at most once in a fetch
(`Fetch.Sound.once`), and what counts as its report is what it reported.
So the outcomes from which a snapshot is made are known as well as the
sources are: `Collector.gathered_of_tells`.

What the sources are and what they can report is not looked at here. A run
is assumed to ask for `asked` whenever a fetch begins, and `offers` tells
which reports a source with some identity can make
(`Slot.Event.Genuine`).
-/

namespace ClusterScaling

variable {asked : List SourceRef} {offers : String → Report → Prop}

/-- The sources that have been dealt with, those that are being asked, and those that will be. -/
def Fetch.handled (f : Fetch) : List SourceRef :=
  f.outcomes.map (·.source) ++ (f.running ++ f.pending)

/-- A source has made a report in a fetch. -/
def Fetch.Reported (f : Fetch) (source : SourceRef) (r : Report) : Prop :=
  ⟨source, .ok r⟩ ∈ f.outcomes

namespace Fetch

/-- A fetch that a caller has just started. -/
def ofSources (call : Nat) (sources : List SourceRef) : Fetch :=
  ⟨call, Slot.distinct [] sources, Slot.distinct [] sources, [], []⟩

/-- A fetch after the turn of its next source. -/
def turned (f : Fetch) (r : SourceRef) (rest : List SourceRef) (allowed : Bool) : Fetch :=
  if allowed then { f with pending := rest, running := f.running ++ [r] }
  else { f with pending := rest, outcomes := f.outcomes ++ [⟨r, .error (.circuitOpen r.id)⟩] }

/-- A fetch after the end of a task. -/
def done (c : CollectorSettings) (f : Fetch) (r : SourceRef) (ending : Ending) : Fetch :=
  { f with
    running := f.running.filter fun other => other.id ≠ r.id
    outcomes := f.outcomes
      ++ ((Slot.resultOf c r.id ending).map fun result => (⟨r, result⟩ : SourceOutcome)).toList }

/-- No source is dealt with twice. -/
def Once (f : Fetch) : Prop := (f.handled.map (·.id)).Nodup

end Fetch

/-- A fetch deals with each of its sources once and takes no report for what is none. -/
structure Fetch.Sound (asked : List SourceRef) (offers : String → Report → Prop) (f : Fetch) :
    Prop where
  /-- The sources are the ones asked for, each one once. -/
  sources : f.sources = Slot.distinct [] asked
  /-- No source is dealt with twice. -/
  once : (f.handled.map (·.id)).Nodup
  /-- No other source is dealt with. -/
  among : ∀ r ∈ f.handled, r ∈ f.sources
  /-- What is taken for a report is one. -/
  genuine : ∀ o ∈ f.outcomes, ∀ r, o.result = .ok r → offers o.source.id r

/-- No source has two outcomes. -/
theorem Fetch.Sound.ids_outcomes {f : Fetch} (hf : f.Sound asked offers) :
    (f.outcomes.map (·.source.id)).Nodup := by
  have honce := hf.once
  rw [Fetch.handled, List.map_append, List.map_map] at honce
  exact (List.nodup_append.mp honce).1

/-- A fetch has produced a snapshot. -/
structure Fetch.Gathered (asked : List SourceRef) (offers : String → Report → Prop) (f : Fetch)
    (snapshot : Snapshot) : Prop where
  /-- The fetch has gone about it as it should. -/
  sound : f.Sound asked offers
  /-- Every source has been dealt with. -/
  complete : f.isComplete = true
  /-- The snapshot is the one of its outcomes. -/
  made : ∃ wall, Averaging.snapshot f.sources f.outcomes wall = .ok snapshot

namespace Slot

/-- An event in which sources are asked for as they should, and report what they can. -/
def Event.Genuine (asked : List SourceRef) (offers : String → Report → Prop) : Event → Prop
  | .enter sources => sources = asked
  | .finish id (.reported r) => offers id r
  | _ => True

/-- A fetch in flight is sound, and what is remembered was gathered by fetches. -/
structure Sound (asked : List SourceRef) (offers : String → Report → Prop) (s : Slot) : Prop where
  /-- The fetch in flight is sound. -/
  fetch : ∀ f, s.fetch = some f → f.Sound asked offers
  /-- The cached snapshot was gathered. -/
  cached : ∀ k, s.cached = some k → ∃ f : Fetch, f.Gathered asked offers k.snapshot
  /-- The snapshot of the latest completed fetch was gathered. -/
  last : ∀ snapshot, s.last = some (.ok snapshot) →
    ∃ f : Fetch, f.Gathered asked offers snapshot

/-- A slot is sound after an event, and who is told a snapshot by it is told one that was gathered. -/
def Gathers (asked : List SourceRef) (offers : String → Report → Prop)
    (after : Slot × Option Answer) : Prop :=
  after.1.Sound asked offers ∧ ∀ call snapshot, after.2 = some ⟨call, .ok snapshot⟩ →
    ∃ f : Fetch, f.Gathered asked offers snapshot

/-- Where nobody is told anything, only the slot matters. -/
theorem Sound.silent {s : Slot} (hs : s.Sound asked offers) : Gathers asked offers (s, none) :=
  ⟨hs, fun _ _ h => nomatch h⟩

/-! ## One source after the other -/

/-- Among different sources each identity stands once, and none that was seen before. -/
theorem ids_distinct (seen : List String) (rs : List SourceRef) :
    ((distinct seen rs).map (·.id)).Nodup ∧ ∀ r ∈ distinct seen rs, r.id ∉ seen := by
  induction rs generalizing seen with
  | nil => exact ⟨.nil, nofun⟩
  | cons r rs ih =>
    rw [distinct]
    split
    · exact ih seen
    · next hnot =>
      obtain ⟨hnodup, hseen⟩ := ih (r.id :: seen)
      refine ⟨List.nodup_cons.mpr ⟨fun hmem => ?_, hnodup⟩, fun r' hr' => ?_⟩
      · obtain ⟨r', hr', heq⟩ := List.mem_map.mp hmem
        exact hseen r' hr' (heq ▸ List.mem_cons_self)
      · rcases List.mem_cons.mp hr' with rfl | hr'
        · exact hnot
        · exact fun hmem => hseen r' hr' (List.mem_cons_of_mem _ hmem)

theorem of_mem_distinct {seen : List String} {rs : List SourceRef} {r : SourceRef}
    (h : r ∈ distinct seen rs) : r ∈ rs := by
  induction rs generalizing seen with
  | nil => cases h
  | cons r' rs ih =>
    rw [distinct] at h
    split at h
    · exact List.mem_cons_of_mem _ (ih h)
    · exact List.mem_cons.mpr ((List.mem_cons.mp h).imp_right ih)

/-- A source stays if no other one has its identity. -/
theorem mem_distinct {seen : List String} {rs : List SourceRef} {r : SourceRef} (h : r ∈ rs)
    (hsole : ∀ r' ∈ rs, r'.id = r.id → r' = r) (hseen : r.id ∉ seen) : r ∈ distinct seen rs := by
  induction rs generalizing seen with
  | nil => cases h
  | cons r' rs ih =>
    rw [distinct]
    by_cases heq : r' = r
    · subst heq
      rw [if_neg hseen]
      exact List.mem_cons_self
    · have hmem : r ∈ rs := (List.mem_cons.mp h).resolve_left fun h => heq h.symm
      have hrest := fun r' hr' => hsole r' (List.mem_cons_of_mem _ hr')
      have hid : r'.id ≠ r.id := fun h => heq (hsole r' List.mem_cons_self h)
      split
      · exact ih hmem hrest hseen
      · refine List.mem_cons_of_mem _ (ih hmem hrest fun hmem => ?_)
        exact (List.mem_cons.mp hmem).elim (fun h => hid h.symm) hseen

/-- What is dealt with is still dealt with once if nothing is added to it. -/
theorem ids_subperm {rs rs' : List SourceRef} (h : rs'.Subperm rs) (hrs : (rs.map (·.id)).Nodup) :
    (rs'.map (·.id)).Nodup := by
  obtain ⟨l, hperm, hsublist⟩ := h
  exact (hperm.map _).nodup_iff.mp ((hsublist.map _).nodup hrs)

/-- The fetch that a caller starts is sound. -/
theorem sound_ofSources (call : Nat) (asked : List SourceRef) (offers : String → Report → Prop) :
    (Fetch.ofSources call asked).Sound asked offers where
  sources := rfl
  once := (ids_distinct [] asked).1
  among := fun _ h => h
  genuine := nofun

/-- The source that is done and the others that are being asked were all being asked. -/
theorem subperm_running {running : List SourceRef} {id : String} {r : SourceRef}
    (h : running.find? (fun r => r.id = id) = some r) :
    (r :: running.filter fun r => r.id ≠ id).Subperm running := by
  obtain ⟨hr, before, after, rfl, -⟩ := List.find?_eq_some_iff_append.mp h
  have hskip : (r :: after).filter (fun r => r.id ≠ id) = after.filter fun r => r.id ≠ id :=
    List.filter_cons_of_neg fun hne => of_decide_eq_true hne (of_decide_eq_true hr)
  rw [List.filter_append, hskip]
  refine ⟨_, List.perm_middle, ?_⟩
  exact List.filter_sublist.append (List.filter_sublist.cons_cons r)

end Slot

namespace Fetch

variable {f f' : Fetch} {r : SourceRef}

/-- The turn of a source moves it, or is denied to it. -/
theorem subperm_turned {f : Fetch} {r : SourceRef} {rest : List SourceRef}
    (hpending : f.pending = r :: rest) (allowed : Bool) :
    (f.turned r rest allowed).handled.Subperm f.handled := by
  unfold turned handled
  rw [hpending]
  cases allowed with
  | true =>
    rw [if_pos rfl, List.append_assoc]
    exact .refl _
  | false =>
    rw [if_neg Bool.false_ne_true]
    simp only [List.map_append, List.map_cons, List.map_nil, List.append_assoc,
      List.singleton_append]
    exact (List.perm_middle.symm.append_left _).subperm

/-- A source that comes to its end is done with, and what it has come to counts once, if at all. -/
theorem subperm_done (c : CollectorSettings) {f : Fetch} {r : SourceRef}
    (hfind : f.running.find? (fun other => other.id = r.id) = some r) (ending : Ending) :
    (f.done c r ending).handled.Subperm f.handled := by
  have hresult : (((Slot.resultOf c r.id ending).map fun result =>
      (⟨r, result⟩ : SourceOutcome)).toList.map (·.source)).Sublist [r] := by
    cases Slot.resultOf c r.id ending with
    | none => exact List.nil_sublist [r]
    | some result => exact .refl [r]
  have hrunning := (hresult.append_right _).subperm.trans (Slot.subperm_running hfind)
  unfold done handled
  rw [List.map_append, List.append_assoc, ← List.append_assoc _ _ f.pending]
  exact (List.Subperm.refl _).append (hrunning.append (.refl f.pending))

/-- **A fetch stays sound** if it deals with nothing anew and takes no report for what is none. -/
theorem Sound.of_subperm (hf : f.Sound asked offers) (hsources : f'.sources = f.sources)
    (hhandled : f'.handled.Subperm f.handled)
    (hgenuine : ∀ o ∈ f'.outcomes, o ∈ f.outcomes ∨ ∀ r, o.result = .ok r → offers o.source.id r) :
    f'.Sound asked offers where
  sources := hsources.trans hf.sources
  once := Slot.ids_subperm hhandled hf.once
  among := fun r hr => hsources ▸ hf.among r (hhandled.subset hr)
  genuine := fun o ho => (hgenuine o ho).elim (hf.genuine o) id

/-- A source that is not asked in its turn has not reported. -/
theorem Sound.turned (hf : f.Sound asked offers) {rest : List SourceRef}
    (hpending : f.pending = r :: rest) (allowed : Bool) :
    (f.turned r rest allowed).Sound asked offers := by
  have hhandled := subperm_turned hpending allowed
  cases allowed with
  | true => exact hf.of_subperm rfl hhandled fun o ho => .inl ho
  | false =>
    refine hf.of_subperm rfl hhandled fun o ho => ?_
    rcases List.mem_append.mp ho with ho | ho
    · exact .inl ho
    · cases List.mem_singleton.mp ho
      exact .inr nofun

/-- A source that comes to its end has reported only if it offers the report. -/
theorem Sound.done (hf : f.Sound asked offers) (c : CollectorSettings)
    (hfind : f.running.find? (fun other => other.id = r.id) = some r) {ending : Ending}
    (he : (Slot.Event.finish r.id ending).Genuine asked offers) :
    (f.done c r ending).Sound asked offers := by
  refine hf.of_subperm rfl (subperm_done c hfind ending) fun o ho => ?_
  rcases List.mem_append.mp ho with ho | ho
  · exact .inl ho
  · obtain ⟨result, hresult, rfl⟩ := Option.map_eq_some_iff.mp (Option.mem_toList.mp ho)
    refine .inr fun report hreport => ?_
    cases hreport
    cases ending with
    | reported report =>
      cases hresult
      exact he
    | failed fault => cases hresult
    | timedOut => cases hresult
    | died => cases hresult

end Fetch

namespace Slot

variable (c : CollectorSettings) (now : Moment) {s : Slot}

/-- The turn of a source moves it, or is denied to it. -/
theorem Sound.launch (hs : s.Sound asked offers) : (s.launch c now).Sound asked offers := by
  unfold Slot.launch
  split
  · exact hs
  · next f hfetch =>
    split
    · exact hs
    · next r rest hpending =>
      split
      · refine ⟨fun f' hf' => ?_, hs.cached, hs.last⟩
        cases hf'
        exact (hs.fetch f hfetch).turned hpending _
      · exact hs

/-- A source that is asked comes to its end. -/
theorem Sound.finish (hs : s.Sound asked offers) {id : String} {ending : Ending}
    (he : (Event.finish id ending).Genuine asked offers) :
    (s.finish c now id ending).Sound asked offers := by
  unfold Slot.finish
  split
  · exact hs
  · next f hfetch =>
    split
    · exact hs
    · next r hfind =>
      have hid : r.id = id := by simpa using List.find?_some hfind
      subst hid
      refine ⟨fun f' hf' => ?_, hs.cached, hs.last⟩
      cases hf'
      exact (hs.fetch f hfetch).done c hfind he

/-- What a completed fetch results in is remembered. -/
theorem Sound.complete (hs : s.Sound asked offers) {result : Except Fault Snapshot}
    (hresult : ∀ snapshot, result = .ok snapshot → ∃ f : Fetch, f.Gathered asked offers snapshot) :
    (s.complete now result).Sound asked offers where
  fetch := fun f hf => by cases hf
  cached := fun k hk => by
    cases result with
    | error fault => exact hs.cached k hk
    | ok snapshot =>
      cases hk
      exact hresult snapshot rfl
  last := fun snapshot h => hresult snapshot (Option.some.inj h)

/-- A fetch that completes has gathered the snapshot that it results in. -/
theorem Sound.settle (hs : s.Sound asked offers) : Gathers asked offers (s.settle now) := by
  unfold Slot.settle
  split
  · exact hs.silent
  · next f hfetch =>
    split
    · next hcomplete =>
      have hgathered (snapshot : Snapshot)
          (hmade : Averaging.snapshot f.sources f.outcomes now.wall = .ok snapshot) :
          ∃ f : Fetch, f.Gathered asked offers snapshot :=
        ⟨f, hs.fetch f hfetch, hcomplete, now.wall, hmade⟩
      refine ⟨hs.complete now hgathered, fun call snapshot h => hgathered snapshot ?_⟩
      exact (Answer.mk.inj (Option.some.inj h)).2
    · exact hs.silent

/-- Whoever gets the lock fetches, or is told what a fetch has gathered. -/
theorem Sound.enter (hs : s.Sound asked offers) : Gathers asked offers (s.enter c now asked) := by
  cases hfetch : s.fetch with
  | some f =>
    simp only [Slot.enter, hfetch]
    exact hs.silent
  | none =>
    cases hqueue : s.queue with
    | nil =>
      simp only [Slot.enter, hfetch, hqueue]
      exact hs.silent
    | cons w rest =>
      cases w with
      | drop =>
        simp only [Slot.enter, hfetch, hqueue]
        refine Sound.silent ⟨fun f hf => hs.fetch f (hfetch.trans hf), ?_, hs.last⟩
        intro k hk
        cases hk
      | collect call observed =>
        rw [enter_collect hfetch hqueue]
        cases hready : s.ready? c now observed with
        | some result =>
          refine ⟨⟨hs.fetch, hs.cached, hs.last⟩, fun other snapshot h => ?_⟩
          cases h
          cases ready_of_ready? c now s hready with
          | joined _ _ hlast => exact hs.last snapshot hlast
          | cached k _ hcached _ => exact hs.cached k hcached
        | none =>
          refine Sound.silent ⟨fun f hf => ?_, hs.cached, hs.last⟩
          cases hf
          exact sound_ofSources call asked offers

/-- A caller that gives up is told no snapshot. -/
theorem Sound.cancel (hs : s.Sound asked offers) (call : Nat) :
    Gathers asked offers (s.cancel call) := by
  unfold Slot.cancel
  split
  · refine ⟨⟨?_, hs.cached, hs.last⟩, fun _ _ h => by cases h⟩
    intro f hf
    cases hf
  · split
    · exact ⟨⟨hs.fetch, hs.cached, hs.last⟩, fun _ _ h => by cases h⟩
    · exact hs.silent

/-- **Whatever happens, snapshots are gathered by fetches**, those that are remembered and those
that callers are told. -/
theorem Sound.step (hs : s.Sound asked offers) {e : Event} (he : e.Genuine asked offers) :
    Gathers asked offers (s.step c now e) := by
  cases e with
  | arrive call => exact Sound.silent ⟨hs.fetch, hs.cached, hs.last⟩
  | queue call =>
    obtain ⟨queue, coming, hline⟩ := s.exists_lineUp call
    show Gathers asked offers (s.lineUp call, none)
    rw [hline]
    exact Sound.silent ⟨hs.fetch, hs.cached, hs.last⟩
  | askDrop => exact Sound.silent ⟨hs.fetch, hs.cached, hs.last⟩
  | enter sources =>
    cases he
    exact hs.enter c now
  | cancel call => exact hs.cancel call
  | launch => exact (hs.launch c now).silent
  | finish id ending => exact (hs.finish c now he).silent
  | settle => exact hs.settle now

theorem sound_empty : Slot.empty.Sound asked offers where
  fetch := fun f hf => by cases hf
  cached := fun k hk => by cases hk
  last := fun snapshot h => by cases h

end Slot

namespace Collector

open Slot

/-- **Every snapshot that a caller is told was gathered by a fetch**, whatever happens in the slots
of other clusters. -/
theorem gathered_of_tells (settings : CollectorSettings) (key : String) {es : List Happening}
    (hgenuine : ∀ e ∈ es, e.2.1 = key → e.2.2.Genuine asked offers) {i call : Nat} {now : Moment}
    {snapshot : Snapshot} (htold : (start settings).Tells key es i now ⟨call, .ok snapshot⟩) :
    ∃ f : Fetch, f.Gathered asked offers snapshot := by
  have hsound (i : Nat) : ((start settings).slotAt key es i).Sound asked offers := by
    induction i with
    | zero => exact sound_empty
    | succ i ih =>
      cases he : es[i]? with
      | none =>
        rw [slotAt_succ_of_none _ key he]
        exact ih
      | some e =>
        obtain ⟨now, other, e⟩ := e
        rw [slotAt_succ _ key he]
        by_cases hkey : other = key
        · subst hkey
          rw [slot_step]
          exact (ih.step _ now (hgenuine _ (List.mem_of_getElem? he) rfl)).1
        · rw [slot_step_of_ne _ now hkey e]
          exact ih
  obtain ⟨e, he, htold⟩ := htold
  exact ((hsound i).step _ now (hgenuine _ (List.mem_of_getElem? he) rfl)).2 call snapshot htold

end Collector

end ClusterScaling
