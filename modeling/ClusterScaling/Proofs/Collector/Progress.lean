import ClusterScaling.Proofs.Collector.Queue
import Mathlib.Data.Prod.Lex

/-!
# Whoever asks can be answered

A caller that has asked and not been told anything is about to wait, waits
for the lock, or fetches: it is **attended** to. Whatever happens, it stays
so until it is told something (`Slot.Transition.attends`).

And it can be told something without anybody being cancelled, by what the
collector does on its own: callers queue, the lock changes hands, sources
get their turn, and their time is up. In every slot where somebody is
attended to, one such event brings the slot on (`Slot.exists_quiet`). It
leaves fewer callers before the lock, or as many and less to do of the
fetch in flight. Nobody knows beforehand how many sources a fetch is going
to ask, so this is a lexicographic order and not a number.
-/

namespace ClusterScaling

namespace Slot

/-- A caller has asked and not been told anything. -/
def Attends (s : Slot) (call : Nat) : Prop := s.expects call = true ∨ s.holder? = some call

/-- Whether the collector does something on its own: nobody comes, is cancelled, or wants the cached
snapshot to be dropped, and the sources stay silent. -/
def Event.isQuiet : Event → Bool
  | queue _ | enter _ | launch | finish _ .timedOut | settle => true
  | arrive _ | askDrop | cancel _ | finish _ _ => false

/-- How many steps lie before the lock, for all who have not had it. -/
def crowd (s : Slot) : Nat := 2 * s.coming.length + s.queue.length

/-- How many steps are left of the fetch in flight. -/
def work (s : Slot) : Nat :=
  match s.fetch with
  | none => 0
  | some f => 2 * f.pending.length + f.running.length + 1

/-- How far a slot is from rest. -/
def unrest (s : Slot) : Nat ×ₗ Nat := toLex (s.crowd, s.work)

section

variable {c : CollectorSettings} {now : Moment} {s s' : Slot} {sight : Sight}

/-! ## Whoever is attended to stays so -/

/-- Whoever is about to wait stays so until it queues or is told something. -/
theorem Transition.comes (ht : Transition c now s s' sight) {call : Nat}
    (h : s.coming.any (Comer.isCall call) = true) :
    sight.tells call = true ∨ s'.expects call = true := by
  have hsame (hcoming : s'.coming = s.coming) : s'.expects call = true := by
    unfold expects
    rw [hcoming, h, Bool.or_true]
  cases ht with
  | still _ _ _ hcoming | ask _ _ _ hcoming | drop _ _ _ _ _ _ hcoming
    | share _ _ _ _ _ _ _ _ hcoming | begin _ _ _ _ _ _ _ hcoming
    | complete _ _ _ _ _ _ _ _ _ hcoming | abandon _ _ _ _ _ hcoming =>
    exact .inr (hsame hcoming)
  | arrive other _ _ _ hcoming =>
    unfold expects
    rw [hcoming, List.any_append, h, Bool.true_or, Bool.or_true]
    exact .inr rfl
  | queue other observed _ _ hqueue hcomes hcoming =>
    unfold expects
    obtain ⟨w, hw, hcall⟩ := List.any_eq_true.mp h
    by_cases heq : w = ⟨other, observed⟩
    · -- it is the one that queues
      subst heq
      refine .inr ((Bool.or_eq_true _ _).mpr (.inl ?_))
      rw [hqueue, List.any_append, Bool.or_eq_true]
      exact .inr (List.any_eq_true.mpr ⟨_, List.mem_singleton_self _, hcall⟩)
    · refine .inr ((Bool.or_eq_true _ _).mpr (.inr ?_))
      rw [hcoming]
      exact List.any_eq_true.mpr ⟨w, (List.mem_erase_of_ne heq).mpr hw, hcall⟩
  | leave other _ _ _ _ _ hcoming =>
    by_cases hcall : other = call
    · subst hcall
      exact .inl (beq_self_eq_true other)
    · obtain ⟨w, hw, hself⟩ := List.any_eq_true.mp h
      have hstays : (!Comer.isCall other w) = true := by
        cases eq_of_beq hself
        rw [Bool.not_eq_true']
        exact beq_false_of_ne (Ne.symm hcall)
      refine .inr ((Bool.or_eq_true _ _).mpr (.inr ?_))
      rw [hcoming]
      exact List.any_eq_true.mpr ⟨w, List.mem_filter.mpr ⟨hw, hstays⟩, hself⟩

/-- **Whoever is attended to stays so until it is told something.** -/
theorem Transition.attends (ht : Transition c now s s' sight) {call : Nat} (h : s.Attends call) :
    sight.tells call = true ∨ s'.Attends call := by
  rcases h with hexpects | hholder
  · rcases (Bool.or_eq_true _ _).mp hexpects with hwaits | hcomes
    · rcases ht.ahead_step (waits_iff.mpr hwaits) with (htells | rfl) | ⟨hwaits, -⟩
      · exact .inl htells
      · cases ht with
        | begin _ _ _ _ _ hholder => exact .inr (.inr hholder)
      · exact .inr (.inl ((Bool.or_eq_true _ _).mpr (.inl (waits_iff.mp hwaits))))
    · exact (ht.comes hcomes).imp_right .inl
  · cases ht with
    | still _ hsame | ask _ hsame | arrive _ _ hsame | queue _ _ _ hsame | leave _ _ _ hsame =>
      exact .inr (.inr (hsame.trans hholder))
    | drop hfree | share _ _ _ hfree | begin _ _ hfree =>
      rw [hholder] at hfree
      cases hfree
    | complete other _ hother | abandon other hother =>
      cases hother.symm.trans hholder
      exact .inl (beq_self_eq_true call)

/-! ## One step on -/

theorem unrest_lt_of_crowd (h : s'.crowd < s.crowd) : s'.unrest < s.unrest :=
  Prod.Lex.toLex_lt_toLex.mpr (.inl h)

theorem unrest_lt_of_work (hcoming : s'.coming = s.coming) (hqueue : s'.queue = s.queue)
    (h : s'.work < s.work) : s'.unrest < s.unrest := by
  refine Prod.Lex.toLex_lt_toLex.mpr (.inr ⟨?_, h⟩)
  unfold crowd
  rw [hcoming, hqueue]

/-- **A fetch in flight can be brought on**: a source that is being asked is given up, or the next
one gets its turn, or there is none left and the fetch completes. -/
theorem exists_quiet_of_fetch (c : CollectorSettings) (now : Moment) {f : Fetch}
    (hfetch : s.fetch = some f) :
    ∃ e : Event, e.isQuiet = true ∧ (s.step c now e).1.unrest < s.unrest := by
  obtain ⟨call, sources, pending, running, outcomes⟩ := f
  cases running with
  | cons r running =>
    refine ⟨.finish r.id .timedOut, rfl, ?_⟩
    have hfind : (r :: running).find? (fun other => other.id = r.id) = some r := by simp
    have hless : ((r :: running).filter fun other => other.id ≠ r.id).length ≤ running.length := by
      rw [List.filter_cons_of_neg (by simp)]
      exact List.length_filter_le _ running
    simp only [step, finish, hfetch, hfind]
    refine unrest_lt_of_work rfl rfl ?_
    simp only [work, hfetch, List.length_cons]
    omega
  | nil =>
    cases pending with
    | cons r pending =>
      refine ⟨.launch, rfl, ?_⟩
      have hroom : ([] : List SourceRef).length < width c :=
        Nat.lt_of_lt_of_le Nat.zero_lt_one (Nat.le_max_right _ _)
      simp only [step, launch, hfetch, if_pos hroom]
      refine unrest_lt_of_work rfl rfl ?_
      simp only [work, hfetch, List.length_cons, List.length_nil]
      split <;> simp only [List.nil_append, List.length_singleton, List.length_nil] <;> omega
    | nil =>
      refine ⟨.settle, rfl, ?_⟩
      simp only [step, settle, hfetch, Fetch.isComplete]
      exact unrest_lt_of_work rfl rfl (by simp [work, hfetch, complete])

/-- **So can a slot with a free lock** for which somebody waits or is about to. -/
theorem exists_quiet_of_free (c : CollectorSettings) (now : Moment) (hfetch : s.fetch = none)
    {call : Nat} (h : s.expects call = true) :
    ∃ e : Event, e.isQuiet = true ∧ (s.step c now e).1.unrest < s.unrest := by
  cases hqueue : s.queue with
  | cons w rest =>
    -- the first in the queue gets the lock
    refine ⟨.enter [], rfl, unrest_lt_of_crowd ?_⟩
    have hless : 2 * s.coming.length + rest.length < s.crowd := by
      unfold crowd
      rw [hqueue, List.length_cons]
      omega
    cases w with
    | drop =>
      simp only [step, enter, hfetch, hqueue]
      exact hless
    | collect other observed =>
      rw [step, enter_collect hfetch hqueue]
      cases s.ready? c now observed <;> exact hless
  | nil =>
    -- nobody waits, so the caller is about to
    unfold expects at h
    rw [hqueue, List.any_nil, Bool.false_or] at h
    obtain ⟨w, hw⟩ := Option.isSome_iff_exists.mp (List.find?_isSome.mpr (List.any_eq_true.mp h))
    refine ⟨.queue call, rfl, unrest_lt_of_crowd ?_⟩
    have hlength := List.length_erase_of_mem (List.mem_of_find?_eq_some hw)
    have hpos := List.length_pos_of_mem (List.mem_of_find?_eq_some hw)
    simp only [step, lineUp, hw, crowd, List.length_append, List.length_singleton]
    omega

/-- **A slot where somebody is attended to can be brought on** by what the collector does on its
own. -/
theorem exists_quiet (c : CollectorSettings) (now : Moment) {call : Nat} (h : s.Attends call) :
    ∃ e : Event, e.isQuiet = true ∧ (s.step c now e).1.unrest < s.unrest := by
  cases hfetch : s.fetch with
  | some f => exact exists_quiet_of_fetch c now hfetch
  | none =>
    rcases h with hexpects | hholder
    · exact exists_quiet_of_free c now hfetch hexpects
    · rw [(holder?_eq_none_iff s).mpr hfetch] at hholder
      cases hholder

end

end Slot

namespace Collector

/-- A caller has asked about a cluster, and has been answered or is attended to. -/
def Heeds (c : Collector) (key : String) (call : Nat) : Prop :=
  (c.answer? call).isSome = true ∨ (c.slot key).Attends call

variable {c : Collector} {key : String} {call : Nat}

/-- Whoever is told something has an answer. -/
theorem isSome_answer?_step {now : Moment} {e : Slot.Event}
    (h : ((c.slot key).see c.settings now e).tells call = true) :
    ((c.step now key e).answer? call).isSome = true := by
  obtain ⟨result, ha⟩ := Slot.Sight.tells_iff.mp h
  rw [Slot.answer?_see] at ha
  unfold answer? step
  dsimp only
  rw [ha, List.find?_append]
  simp

/-- Whoever has an answer has one still. -/
theorem isSome_answer?_of_isSome (h : (c.answer? call).isSome = true) (now : Moment)
    (other : String) (e : Slot.Event) : ((c.step now other e).answer? call).isSome = true := by
  unfold answer? step at *
  dsimp only
  rw [Option.isSome_map] at *
  rw [List.find?_append, Option.isSome_or, h, Bool.true_or]

/-- **Whoever has asked is heeded from then on**, whatever happens. -/
theorem Heeds.step (h : c.Heeds key call) (now : Moment) (other : String) (e : Slot.Event) :
    (c.step now other e).Heeds key call := by
  rcases h with hanswer | hattends
  · exact .inl (isSome_answer?_of_isSome hanswer now other e)
  · by_cases hkey : other = key
    · subst hkey
      rcases (Slot.step_transition c.settings now (c.slot other) e).attends hattends
        with htells | hattends
      · exact .inl (isSome_answer?_step htells)
      · refine .inr ?_
        rw [slot_step]
        exact hattends
    · refine .inr ?_
      rw [slot_step_of_ne c now hkey e]
      exact hattends

/-- Whoever arrives is heeded. -/
theorem heeds_arrive (c : Collector) (now : Moment) (key : String) (call : Nat) :
    (c.step now key (.arrive call)).Heeds key call := by
  refine .inr (.inl ?_)
  rw [slot_step]
  unfold Slot.expects
  refine (Bool.or_eq_true _ _).mpr (.inr ?_)
  exact List.any_eq_true.mpr ⟨_, List.mem_append_right _ (List.mem_singleton_self _),
    beq_self_eq_true call⟩

/-- **Whoever has asked can be answered** by what the collector does on its own. -/
theorem Heeds.exists_answer (h : c.Heeds key call) (now : Moment) :
    ∃ es : List Slot.Event, (∀ e ∈ es, e.isQuiet = true)
      ∧ ((c.run (es.map fun e => (now, key, e))).answer? call).isSome = true := by
  -- each event that brings the slot on leaves it nearer to rest
  induction hn : (c.slot key).unrest using WellFoundedLT.induction generalizing c with
  | ind n ih =>
    rcases h with hanswer | hattends
    · exact ⟨[], nofun, hanswer⟩
    · obtain ⟨e, hquiet, hless⟩ := Slot.exists_quiet c.settings now hattends
      have hnext : ((c.step now key e).slot key).unrest < n := by
        rw [slot_step, ← hn]
        exact hless
      obtain ⟨es, hall, hanswer⟩ := ih _ hnext (Heeds.step (.inr hattends) now key e) rfl
      exact ⟨e :: es, List.forall_mem_cons.mpr ⟨hquiet, hall⟩, hanswer⟩

end Collector

end ClusterScaling
