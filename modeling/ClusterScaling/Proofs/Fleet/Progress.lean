import ClusterScaling.Proofs.Collector.Cancelling
import ClusterScaling.Proofs.Collector.Progress
import ClusterScaling.Proofs.Fleet.Commit
import ClusterScaling.Proofs.Fleet.Serial
import Mathlib.Data.List.Nodup

/-!
# Cycles can be brought to their end

Cycles of a cluster wait for each other, and for callers of the collector
that are no cycles. None of this ends in a standstill. As long as a cycle
is under way there is something that the fleet does on its own and that
brings some cycle nearer to its end (`Fleet.exists_quiet`): the cycle that
stands first moves on, and if it waits for a book that is held, the holder
does. A holder that collects can be answered (`Collector.Heeds.exists_answer`),
and one that asks the adviser goes on without advice.

So every fleet can be brought to rest without a request being cancelled,
even if no source and no adviser ever answers, `Fleet.cycles_can_end`, and
only the cycles that somebody had cancelled before end without decisions.
Requests have identities of their own here: of two cycles with one
identity, only the first would be told apart.
-/

namespace ClusterScaling

/-- How many steps a cycle is from its end, at most. -/
def Station.rank : Station → Nat
  | seeking => 6
  | missing => 5
  | found _ => 4
  | waiting _ => 3
  | collecting _ => 2
  | asking _ _ _ => 1

theorem Station.rank_pos (station : Station) : 0 < station.rank := by
  cases station <;> exact Nat.succ_pos _

/-- How many steps cycles are from their ends, at most, taken together. -/
def Visit.ranks (vs : List Visit) : Nat := (vs.map fun v => v.station.rank).foldr (· + ·) 0

theorem Visit.ranks_perm {vs ws : List Visit} (hperm : vs.Perm ws) : ranks vs = ranks ws := by
  unfold ranks
  rw [← List.sum_eq_foldr, ← List.sum_eq_foldr]
  exact (hperm.map _).sum_nat

theorem Visit.ranks_append (vs ws : List Visit) : ranks (vs ++ ws) = ranks vs + ranks ws := by
  unfold ranks
  rw [← List.sum_eq_foldr, ← List.sum_eq_foldr, ← List.sum_eq_foldr, List.map_append,
    List.sum_append_nat]

namespace Fleet

/-- Whether a fleet does something on its own: nothing is requested or cancelled, and the adviser
stays silent. -/
def Event.isQuiet : Event → Bool
  | look _ | begin _ | queue _ | enter _ | resume _ | advise _ none => true
  | collector _ e => e.isQuiet
  | request _ _ | cancel _ | advise _ (some _) => false

/-- How many steps the cycles under way are from their ends, at most. -/
def unrest (f : Fleet) : Nat := Visit.ranks f.visits

/-- How many cycles under way have an identity. -/
def sharers (f : Fleet) (id : Nat) : Nat := f.visits.countP fun v => v.call.id == id

/-- Every cycle that collects is heeded by the collector. -/
def Heedful (f : Fleet) : Prop :=
  ∀ call book, ⟨call, .collecting book⟩ ∈ f.visits →
    f.collector.Heeds call.cluster.key call.id

/-- A request is cancelled, or its caller in the collector is. -/
def Cancels (es : List (Moment × Event)) (id : Nat) : Prop :=
  ∃ e ∈ es, e.2 = .cancel id ∨ ∃ key, e.2 = .collector key (.cancel id)

section

variable {f f' : Fleet} {now : Moment} {e : Event} {sight : Sight} {v : Visit} {rest : List Visit}

/-! ## Identities -/

/-- Of a cycle told apart and the others each has its identity. -/
theorem sharers_of_perm (hperm : f.visits.Perm (v :: rest)) (id : Nat) :
    f.sharers id = (rest.countP fun v => v.call.id == id) + if v.call.id == id then 1 else 0 := by
  unfold sharers
  rw [hperm.countP_eq, List.countP_cons]

/-- **Only a request adds to those that share an identity.** -/
theorem Transition.sharers_le (ht : Transition f e f' sight) (id : Nat) :
    f'.sharers id ≤ f.sharers id + sight.requested?.toList.countP fun call => call.id == id := by
  have hmoved {v : Visit} {rest : List Visit} {station : Station}
      (hperm : f.visits.Perm (v :: rest)) (hv : f'.visits = rest ++ [⟨v.call, station⟩]) :
      f'.sharers id = f.sharers id := by
    rw [sharers_of_perm hperm]
    unfold sharers
    rw [hv, List.countP_append, List.countP_singleton]
  have hless {v : Visit} {rest : List Visit} (hperm : f.visits.Perm (v :: rest))
      (hv : f'.visits = rest) : f'.sharers id ≤ f.sharers id := by
    rw [sharers_of_perm hperm]
    unfold sharers
    rw [hv]
    exact Nat.le_add_right _ _
  cases ht with
  | still hv | refuse _ hv =>
    unfold sharers
    rw [hv]
    exact Nat.le_add_right _ _
  | request call hv =>
    unfold sharers
    rw [hv, List.countP_append]
    exact Nat.le_refl _
  | approach v rest station hperm hv | enter call rest book hperm hv
    | ask call rest book snapshot hperm hv => exact Nat.le_of_eq (hmoved hperm hv)
  | leave v rest hperm hv | commit v rest book told hperm hv => exact hless hperm hv

/-- **No more cycles share an identity than did before and than have been requested with it.** -/
theorem Orderly.sharers_run_le (hf : f.Orderly) (es : List (Moment × Event)) (id : Nat) :
    (f.run es).sharers id
      ≤ f.sharers id + ((f.watch es).filterMap Sight.requested?).countP fun call => call.id == id
    := by
  induction es generalizing f with
  | nil => exact Nat.le_refl _
  | cons e es ih =>
    have hstep := (step_transition hf e.1 e.2).sharers_le id
    have hrest := ih (hf.step e.1 e.2)
    have hall : ((f.watch (e :: es)).filterMap Sight.requested?)
        = (f.see e.2).requested?.toList
          ++ ((f.step e.1 e.2).watch es).filterMap Sight.requested? := by
      rw [watch, List.filterMap_cons]
      cases (f.see e.2).requested? <;> rfl
    rw [hall, List.countP_append]
    exact Nat.le_trans hrest (by omega)

/-- A cycle with an identity of its own is told apart by it. -/
theorem visit?_of_mem (hone : f.sharers v.call.id ≤ 1) (hv : v ∈ f.visits) :
    f.visit? v.call.id = some v := by
  cases hfind : f.visit? v.call.id with
  | none =>
    have hnot := List.find?_eq_none.mp hfind v hv
    exact absurd (beq_self_eq_true v.call.id) hnot
  | some w =>
    have hid : w.call.id = v.call.id := id_of_visit? hfind
    have hperm := perm_others hfind
    rcases List.mem_cons.mp (hperm.mem_iff.mp hv) with rfl | hother
    · rfl
    · -- the other one would share the identity
      have hpos : 0 < (f.others w.call.id).countP fun other => other.call.id == v.call.id :=
        List.countP_pos_iff.mpr ⟨v, hother, beq_self_eq_true _⟩
      rw [sharers_of_perm hperm, hid, beq_self_eq_true, if_pos rfl] at hone
      rw [hid] at hpos
      omega

/-! ## Cycles that collect are heeded -/

/-- A cycle is seen to get its book only when it is its turn. -/
theorem eq_enter_of_see {call : CycleCall} (h : f.see e = .entered call) :
    e = .enter call.id ∧ ∃ book, f.visit? call.id = some ⟨call, .waiting book⟩
      ∧ f.next? book = some call.id := by
  cases e with
  | enter id =>
    unfold see at h
    dsimp only at h
    split at h
    · next other book hv =>
      split at h
      · next hnext =>
        cases h
        have hid : call.id = id := id_of_visit? hv
        subst hid
        exact ⟨rfl, book, hv, hnext⟩
      · cases h
    · cases h
  | request other cancelled => cases cancelled <;> cases h
  | look id | begin id | queue id | collector key e => cases h
  | resume id | advise id advice | cancel id =>
    unfold see at h
    dsimp only at h
    repeat' split at h
    all_goals cases h

/-- What an event asks of the collector leaves everybody heeded. -/
theorem heeds_step (f : Fleet) (now : Moment) (e : Event) {key : String} {id : Nat}
    (h : f.collector.Heeds key id) : (f.step now e).collector.Heeds key id := by
  rcases (f.step_asks now e).2 with hsame | ⟨other, asked, -, hstep⟩
  · rw [hsame]
    exact h
  · rw [hstep]
    exact h.step now other asked

/-- **An event leaves a fleet heedful.** -/
theorem Heedful.step (hh : f.Heedful) (hf : f.Orderly) (now : Moment) (e : Event) :
    (f.step now e).Heedful := by
  intro call book hmem
  have ht := step_transition hf now e
  have hold (hin : ⟨call, .collecting book⟩ ∈ f.visits) :
      (f.step now e).collector.Heeds call.cluster.key call.id :=
    f.heeds_step now e (hh call book hin)
  generalize hsee : f.see e = sight at ht
  cases ht with
  | still hv | refuse _ hv => exact hold (hv ▸ hmem)
  | request other hv =>
    rcases List.mem_append.mp (hv ▸ hmem) with hin | hin
    · exact hold hin
    · cases List.mem_singleton.mp hin
  | approach v rest station hperm hv _ hafter =>
    rcases List.mem_append.mp (hv ▸ hmem) with hin | hin
    · exact hold ((mem_of_perm hperm).2 _ hin)
    · cases List.mem_singleton.mp hin
      cases hafter
  | ask other rest _ _ hperm hv =>
    rcases List.mem_append.mp (hv ▸ hmem) with hin | hin
    · exact hold ((mem_of_perm hperm).2 _ hin)
    · cases List.mem_singleton.mp hin
  | leave v rest hperm hv | commit v rest _ told hperm hv =>
    exact hold ((mem_of_perm hperm).2 _ (hv ▸ hmem))
  | enter other rest _ hperm hv =>
    rcases List.mem_append.mp (hv ▸ hmem) with hin | hin
    · exact hold ((mem_of_perm hperm).2 _ hin)
    · cases List.mem_singleton.mp hin
      -- it has just arrived
      obtain ⟨rfl, book, hvisit, hnext⟩ := eq_enter_of_see hsee
      simp only [Fleet.step, hvisit, if_pos hnext]
      exact f.collector.heeds_arrive now _ _

theorem Heedful.run (hh : f.Heedful) (hf : f.Orderly) (es : List (Moment × Event)) :
    (f.run es).Heedful := by
  induction es generalizing f with
  | nil => exact hh
  | cons e es ih => exact ih (hh.step hf e.1 e.2) (hf.step e.1 e.2)

/-- Nobody collects in a fleet of which nothing is known. -/
theorem heedful_start (s : Settings) (recorder : Option Recorder) : (start s recorder).Heedful :=
  fun _ _ hmem => absurd hmem List.not_mem_nil

/-! ## One cycle nearer to its end -/

theorem run_append (f : Fleet) (es more : List (Moment × Event)) :
    f.run (es ++ more) = (f.run es).run more :=
  List.foldl_append

/-- What happens to the slot of a cluster happens to the collector. -/
theorem run_collector (f : Fleet) (now : Moment) (key : String) (es : List Slot.Event) :
    f.run (es.map fun e => (now, .collector key e))
      = { f with collector := f.collector.run (es.map fun e => (now, key, e)) } := by
  induction es generalizing f with
  | nil => rfl
  | cons e es ih => exact ih (f.step now (.collector key e))

theorem unrest_of_visit? {id : Nat} (hv : f.visit? id = some v) :
    f.unrest = v.station.rank + Visit.ranks (f.others v.call.id) :=
  Visit.ranks_perm (perm_others hv)

/-- When a cycle ends, less is left to do. -/
theorem unrest_lt_of_end {id : Nat} (hv : f.visit? id = some v)
    (hvisits : f'.visits = f.others v.call.id) : f'.unrest < f.unrest := by
  have hpos := v.station.rank_pos
  rw [unrest_of_visit? hv]
  unfold unrest
  rw [hvisits]
  omega

/-- When a cycle moves on, less is left to do. -/
theorem unrest_lt_of_move {id : Nat} (hv : f.visit? id = some v) {station : Station}
    (hvisits : f'.visits = f.others v.call.id ++ [⟨v.call, station⟩])
    (hless : station.rank < v.station.rank) : f'.unrest < f.unrest := by
  rw [unrest_of_visit? hv]
  unfold unrest
  rw [hvisits, Visit.ranks_append, Nat.add_comm]
  exact Nat.add_lt_add_right hless _

/-- When a cycle that collects learns of the result, it ends or asks the adviser. -/
theorem unrest_resume_lt {id : Nat} {call : CycleCall} {book : Nat}
    (hv : f.visit? id = some ⟨call, .collecting book⟩) (result : Except Fault Snapshot) :
    (f.resume call book result).unrest < f.unrest := by
  unfold resume
  split
  · exact unrest_lt_of_end hv rfl
  · exact unrest_lt_of_end hv rfl
  · dsimp only
    split
    · exact unrest_lt_of_move hv rfl (Nat.lt_succ_self 1)
    · exact unrest_lt_of_end hv rfl

/-- **Whoever holds a book can be brought on**: it is answered by the collector and learns of that,
or it goes on without advice. -/
theorem exists_quiet_of_holder (hh : f.Heedful) {id book : Nat} (hv : f.visit? id = some v)
    (hheld : v.station.held? = some book) (now : Moment) :
    ∃ es : List (Moment × Event), (∀ e ∈ es, e.2.isQuiet = true)
      ∧ (f.run es).unrest < f.unrest := by
  obtain ⟨call, station⟩ := v
  have hid : call.id = id := id_of_visit? hv
  cases station with
  | asking other snapshot drafts =>
    refine ⟨[(now, .advise id none)], List.forall_mem_singleton.mpr rfl, ?_⟩
    show (f.step now (.advise id none)).unrest < f.unrest
    simp only [step, hv]
    exact unrest_lt_of_end hv rfl
  | collecting other =>
    obtain ⟨es, hquiet, hanswer⟩ := (hh call other (mem_of_visit? hv)).exists_answer now
    obtain ⟨result, hresult⟩ := Option.isSome_iff_exists.mp hanswer
    refine ⟨es.map (fun e => (now, .collector call.cluster.key e)) ++ [(now, .resume id)],
      ?_, ?_⟩
    · refine List.forall_mem_append.mpr ⟨?_, List.forall_mem_singleton.mpr rfl⟩
      exact List.forall_mem_map.mpr hquiet
    · rw [run_append, run_collector]
      show (step _ now (.resume id)).unrest < f.unrest
      rw [hid] at hresult
      -- the collector has moved on, and the cycles stand where they stood
      have hsame (c : Collector) : ({ f with collector := c } : Fleet).visit? id = f.visit? id := rfl
      simp only [step, hsame, hv, hresult]
      exact unrest_resume_lt ((hsame _).trans hv) result
  | _ => cases hheld

/-- **As long as a cycle is under way, some cycle can be brought on** by what the fleet does on its
own. -/
theorem exists_quiet (hh : f.Heedful) (hone : ∀ id, f.sharers id ≤ 1) (hvisits : f.visits ≠ [])
    (now : Moment) :
    ∃ es : List (Moment × Event), (∀ e ∈ es, e.2.isQuiet = true)
      ∧ (f.run es).unrest < f.unrest := by
  obtain ⟨v, rest, hcons⟩ := List.exists_cons_of_ne_nil hvisits
  have hmem : v ∈ f.visits := hcons ▸ List.mem_cons_self
  have hv : f.visit? v.call.id = some v := visit?_of_mem (hone _) hmem
  -- a single event at the cycle that stands first
  have hsingle {e : Event} (he : e.isQuiet = true) (hless : (f.step now e).unrest < f.unrest) :
      ∃ es : List (Moment × Event), (∀ e ∈ es, e.2.isQuiet = true)
        ∧ (f.run es).unrest < f.unrest :=
    ⟨[(now, e)], List.forall_mem_singleton.mpr he, hless⟩
  obtain ⟨call, station⟩ := v
  cases station with
  | seeking =>
    refine hsingle (e := .look call.id) rfl ?_
    simp only [step, hv]
    refine unrest_lt_of_move hv rfl ?_
    cases f.histories.book? call.cluster.key <;> simp [Station.rank]
  | missing =>
    refine hsingle (e := .begin call.id) rfl ?_
    simp only [step, hv]
    exact unrest_lt_of_move hv rfl (Nat.lt_succ_self 4)
  | found book =>
    refine hsingle (e := .queue call.id) rfl ?_
    simp only [step, hv]
    exact unrest_lt_of_move hv rfl (Nat.lt_succ_self 3)
  | waiting book =>
    cases hheld : f.isHeld book with
    | true =>
      -- the holder has to be brought on first
      obtain ⟨w, hw, hholds⟩ := List.any_eq_true.mp hheld
      exact exists_quiet_of_holder hh (visit?_of_mem (hone _) hw) (Station.holds_iff.mp hholds) now
    | false =>
      refine hsingle (e := .enter call.id) rfl ?_
      have hnext : f.next? book = some call.id := by
        unfold next?
        rw [hheld, hcons, List.find?_cons_of_pos (by exact beq_self_eq_true book)]
        rfl
      simp only [step, hv, if_pos hnext]
      exact unrest_lt_of_move hv rfl (Nat.lt_succ_self 2)
  | collecting book => exact exists_quiet_of_holder hh hv rfl now
  | asking book snapshot drafts => exact exists_quiet_of_holder hh hv rfl now

/-- Nothing that a fleet does on its own is a request. -/
theorem requested?_see_of_quiet (he : e.isQuiet = true) : (f.see e).requested? = none := by
  cases e with
  | request call cancelled | cancel id => cases he
  | look id | begin id | queue id | collector key e => rfl
  | enter id | resume id | advise id advice =>
    unfold see
    dsimp only
    repeat' split
    all_goals rfl

theorem requested_watch_of_quiet {es : List (Moment × Event)}
    (hquiet : ∀ e ∈ es, e.2.isQuiet = true) : (f.watch es).filterMap Sight.requested? = [] := by
  induction es generalizing f with
  | nil => rfl
  | cons e es ih =>
    obtain ⟨he, hes⟩ := List.forall_mem_cons.mp hquiet
    rw [watch, List.filterMap_cons_none (requested?_see_of_quiet he)]
    exact ih hes

/-- **Every fleet can be brought to rest** by what it does on its own. -/
theorem exists_rest (hf : f.Orderly) (hh : f.Heedful) (hone : ∀ id, f.sharers id ≤ 1)
    (now : Moment) :
    ∃ es : List (Moment × Event), (∀ e ∈ es, e.2.isQuiet = true) ∧ (f.run es).visits = [] := by
  induction hn : f.unrest using Nat.strong_induction_on generalizing f with
  | _ n ih =>
    by_cases hvisits : f.visits = []
    · exact ⟨[], nofun, hvisits⟩
    · obtain ⟨es, hquiet, hless⟩ := exists_quiet hh hone hvisits now
      have hone' (id : Nat) : (f.run es).sharers id ≤ 1 := by
        have hle := hf.sharers_run_le es id
        rw [requested_watch_of_quiet hquiet] at hle
        exact Nat.le_trans hle (hone id)
      obtain ⟨more, hmore, hrest⟩ := ih _ (hn ▸ hless) (hf.run es) (hh.run hf es) hone' rfl
      exact ⟨es ++ more, List.forall_mem_append.mpr ⟨hquiet, hmore⟩, run_append f es more ▸ hrest⟩

end

/-! ## Who ends without decisions -/

section

variable {f : Fleet} {es more : List (Moment × Event)} {id : Nat}

theorem Cancels.cons (h : Cancels es id) (e : Moment × Event) : Cancels (e :: es) id := by
  obtain ⟨other, hmem, hcancel⟩ := h
  exact ⟨other, List.mem_cons_of_mem _ hmem, hcancel⟩

/-- What a fleet does on its own cancels nobody. -/
theorem Cancels.of_append (h : Cancels (es ++ more) id)
    (hquiet : ∀ e ∈ more, e.2.isQuiet = true) : Cancels es id := by
  obtain ⟨e, hmem, hcancel⟩ := h
  rcases List.mem_append.mp hmem with hmem | hmem
  · exact ⟨e, hmem, hcancel⟩
  · have he := hquiet e hmem
    rcases hcancel with hcancel | ⟨key, hcancel⟩
    · rw [hcancel] at he
      cases he
    · rw [hcancel] at he
      cases he

/-- **What a fleet makes of its collector is a run of the collector**, in which only those are
cancelled who are cancelled in the run of the fleet. -/
theorem exists_happenings (f : Fleet) (es : List (Moment × Event)) :
    ∃ hs : List Collector.Happening, (f.run es).collector = f.collector.run hs
      ∧ ∀ now key id, (now, key, .cancel id) ∈ hs → Cancels es id := by
  induction es generalizing f with
  | nil => exact ⟨[], rfl, nofun⟩
  | cons e es ih =>
    obtain ⟨hs, hrun, hcancels⟩ := ih (f.step e.1 e.2)
    rcases (f.step_asks e.1 e.2).2 with hsame | ⟨key, asked, hasks, hstep⟩
    · rw [hsame] at hrun
      exact ⟨hs, hrun, fun now key id hmem => (hcancels now key id hmem).cons e⟩
    · rw [hstep] at hrun
      refine ⟨(e.1, key, asked) :: hs, hrun, fun now other id hmem => ?_⟩
      rcases List.mem_cons.mp hmem with heq | hmem
      · cases heq
        cases hasks with
        | apart _ _ he => exact ⟨e, List.mem_cons_self, .inr ⟨key, he⟩⟩
        | cancel call station hv he => exact ⟨e, List.mem_cons_self, .inl he⟩
      · exact (hcancels now other id hmem).cons e

/-- **A cycle is answered that it is cancelled only if it has been.** -/
theorem cancels_of_answer {s : Settings} {recorder : Option Recorder}
    (h : ((start s recorder).run es).collector.answer? id = some (.error .cancelled)) :
    Cancels es id := by
  obtain ⟨hs, hrun, hcancels⟩ := (start s recorder).exists_happenings es
  obtain ⟨⟨call, result⟩, hfind, rfl⟩ := Option.map_eq_some_iff.mp h
  have hmem := List.mem_of_find?_eq_some hfind
  cases eq_of_beq (List.find?_some (p := fun a : Answer => a.call == id) hfind)
  rw [hrun] at hmem
  rcases Collector.mem_answers_run hmem with hnone | ⟨key, i, now, htells⟩
  · cases hnone
  · obtain ⟨sight, hi, hsight⟩ := (Collector.tells_iff _ key).mp htells
    have hsaw := Slot.Saw.of_getElem? hi
    cases (Collector.past_watch s.collector key hs).told_cancelled hsaw hsight
    obtain ⟨later, hcancel⟩ := Collector.exists_cancel s.collector key hs hsaw
    exact hcancels later key call (List.mem_of_getElem? hcancel)

/-- A cycle that ends without decisions, and is not cancelled at that moment, was answered so. -/
theorem answer?_of_see {e : Event} (he : e.isQuiet = true) {call : CycleCall}
    (h : (f.see e).ended? = some ⟨call, .cancelled⟩) :
    f.collector.answer? call.id = some (.error .cancelled) := by
  cases e with
  | request call cancelled | cancel id => cases he
  | look id | begin id | queue id | collector key e => cases h
  | enter id | advise id advice =>
    unfold see at h
    dsimp only at h
    repeat' split at h
    all_goals cases h
  | resume id =>
    unfold see at h
    dsimp only at h
    split at h
    · next other book hv =>
      cases id_of_visit? hv
      split at h
      · next told htold =>
        cases h
        obtain ⟨result, hanswer, htold⟩ := Option.bind_eq_some_iff.mp htold
        rw [hanswer]
        unfold toldOf at htold
        split at htold
        · rfl
        · cases htold
        · split at htold <;> cases htold
      · cases h
    · cases h

/-- **Who ends without decisions has been cancelled before**, if what happens is what the fleet does
on its own. -/
theorem cancels_of_ended {s : Settings} {recorder : Option Recorder}
    (hquiet : ∀ e ∈ more, e.2.isQuiet = true) {call : CycleCall}
    (h : ⟨call, .cancelled⟩ ∈ (((start s recorder).run es).watch more).filterMap Sight.ended?) :
    Cancels es call.id := by
  induction more generalizing es with
  | nil => cases h
  | cons e more ih =>
    obtain ⟨he, hmore⟩ := List.forall_mem_cons.mp hquiet
    obtain ⟨sight, hmem, hended⟩ := List.mem_filterMap.mp h
    rcases List.mem_cons.mp hmem with rfl | hmem
    · exact cancels_of_answer (answer?_of_see he hended)
    · have hnext : ((start s recorder).run es).step e.1 e.2 = (start s recorder).run (es ++ [e]) :=
        (run_append (start s recorder) es [e]).symm
      rw [hnext] at hmem
      exact (ih hmore (List.mem_filterMap.mpr ⟨sight, hmem, hended⟩)).of_append
        (List.forall_mem_singleton.mpr he)

/-- **Cycles that overlap can be brought to their ends.** Whatever has happened to a fleet, in
whatever order, if requests have identities of their own, then what the fleet does on its own can
bring it to rest: nothing is requested or cancelled any more, every cycle that was under way ends,
each of them once, and only one that had been cancelled ends without decisions. -/
theorem cycles_can_end (s : Settings) (recorder : Option Recorder) (es : List (Moment × Event))
    (hids : ((((start s recorder).watch es).filterMap Sight.requested?).map CycleCall.id).Nodup) :
    let f := (start s recorder).run es
    ∃ more : List (Moment × Event), (∀ e ∈ more, e.2.isQuiet = true) ∧ (f.run more).visits = []
      ∧ ∀ key, ((endingsOf key (f.watch more)).map Ended.call).Perm (f.underWay key)
        ∧ ∀ e ∈ endingsOf key (f.watch more), e.told = .cancelled → Cancels es e.call.id := by
  intro f
  have hstart := orderly_start s recorder
  have hf : f.Orderly := hstart.run es
  have hone (id : Nat) : f.sharers id ≤ 1 := by
    have hcount := List.nodup_iff_count_le_one.mp hids id
    rw [List.count_eq_countP, List.countP_map] at hcount
    have hle := hstart.sharers_run_le es id
    rw [show (start s recorder).sharers id = 0 from rfl, Nat.zero_add] at hle
    exact Nat.le_trans hle hcount
  obtain ⟨more, hquiet, hrest⟩ :=
    exists_rest hf ((heedful_start s recorder).run hstart es) hone ⟨0, 0⟩
  refine ⟨more, hquiet, hrest, fun key => ⟨?_, ?_⟩⟩
  · have hcomplete := (hf.serial_run more key).complete
    unfold requestsOf at hcomplete
    rw [requested_watch_of_quiet hquiet] at hcomplete
    unfold underWay at hcomplete ⊢
    rw [hrest] at hcomplete
    simpa using hcomplete
  · rintro ⟨call, told⟩ hmem rfl
    exact cancels_of_ended hquiet (List.mem_filter.mp hmem).1

end

end Fleet

end ClusterScaling
