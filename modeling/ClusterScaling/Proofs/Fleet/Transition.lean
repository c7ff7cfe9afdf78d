import ClusterScaling.Fleet
import ClusterScaling.Proofs.Cycle.Stages

/-!
# What an event does to a fleet

An onlooker of a fleet sees of an event whether a cycle is requested, gets
its book, or ends, and what an ending cycle was told: `Fleet.see`. All the
rest is approach. `Fleet.Transition` lists what can happen to the cycles
under way, the books and the results, together with what is seen of it,
and `Fleet.step_transition` says that nothing else does. Whatever holds of
fleets is proved transition by transition from here on, without another
look at `Fleet.step`.

The list is short because a fleet is **orderly** (`Fleet.Orderly`): a
cycle that has found a book has found the one of its cluster, at most one
cycle of a cluster holds it, and what a cycle has made up its mind about
while it asks the adviser is still what its book says.
-/

namespace ClusterScaling

/-- The book that a cycle holds. -/
def Station.held? : Station → Option Nat
  | .collecting book | .asking book _ _ => some book
  | _ => none

theorem Station.holds_iff {station : Station} {book : Nat} :
    station.holds book = true ↔ station.held? = some book := by
  cases station <;> simp [holds, held?]

/-- A book that a cycle holds is one that it has found. -/
theorem Station.book?_of_held? {station : Station} {book : Nat} (h : station.held? = some book) :
    station.book? = some book := by
  cases station with
  | collecting other => exact h
  | asking other snapshot drafts => exact h
  | _ => cases h

/-- Whether a cycle holds the book of a cluster. -/
def Visit.holdsFor (key : String) (v : Visit) : Bool :=
  v.station.held?.isSome && v.call.cluster.key == key

/-- What an onlooker sees of an event. -/
inductive Sight where
  /-- Nothing. -/
  | nothing
  /-- A cycle is requested and gets under way. -/
  | requested (call : CycleCall)
  /-- A cycle is requested that is cancelled from the outset. -/
  | refused (call : CycleCall)
  /-- A cycle gets the book of its cluster. -/
  | entered (call : CycleCall)
  /-- A cycle ends. -/
  | ended (call : CycleCall) (told : Told)

namespace Fleet

/-- What a cycle that holds a book is told by the result of its collection, if it ends with it. -/
def toldOf (f : Fleet) (call : CycleCall) (book : Nat) : Except Fault Snapshot → Option Told
  | .error .cancelled => some .cancelled
  | .error fault => some (.unavailable fault)
  | .ok snapshot =>
    if Cycle.asksAdviser f.settings
        (Cycle.draft f.settings call.live snapshot (f.histories.read book) call.now)
    then none else some (.readings snapshot none)

/-- What is seen of an event. -/
def see (f : Fleet) : Event → Sight
  | .request call cancelled => if cancelled then .refused call else .requested call
  | .enter id =>
    match f.visit? id with
    | some ⟨call, .waiting book⟩ => if f.next? book = some id then .entered call else .nothing
    | _ => .nothing
  | .resume id =>
    match f.visit? id with
    | some ⟨call, .collecting book⟩ =>
      match (f.collector.answer? id).bind (f.toldOf call book) with
      | some told => .ended call told
      | none => .nothing
    | _ => .nothing
  | .advise id advice =>
    match f.visit? id with
    | some ⟨call, .asking _ snapshot _⟩ => .ended call (.readings snapshot advice)
    | _ => .nothing
  | .cancel id =>
    match f.visit? id with
    | some ⟨_, .collecting _⟩ | none => .nothing
    | some ⟨call, _⟩ => .ended call .cancelled
  | .look _ | .begin _ | .queue _ | .collector _ _ => .nothing

/-- What is seen of a list of events. -/
def watch (f : Fleet) : List (Moment × Event) → List Sight
  | [] => []
  | e :: es => f.see e.2 :: watch (f.step e.1 e.2) es

/-- The cycles that hold the book of a cluster. -/
def holders (f : Fleet) (key : String) : List Visit := f.visits.filter (Visit.holdsFor key)

/-- What keeps cycles apart. -/
structure Orderly (f : Fleet) : Prop where
  /-- New histories have the room that the settings give them. -/
  capacity : f.histories.capacity = f.settings.engine.historyCapacity
  /-- A cycle that has found a book has found that of its cluster. -/
  booked : ∀ v ∈ f.visits, ∀ book, v.station.book? = some book →
    f.histories.book? v.call.cluster.key = some book
  /-- The book of a cluster is held by one cycle at a time. -/
  exclusive : ∀ key, (f.holders key).length ≤ 1
  /-- A cycle that asks the adviser has to, and has made up its mind about what its book says. -/
  asking : ∀ call book snapshot drafts, ⟨call, .asking book snapshot drafts⟩ ∈ f.visits →
    drafts = Cycle.draft f.settings call.live snapshot (f.histories.read book) call.now
      ∧ Cycle.asksAdviser f.settings drafts = true
      ∧ f.collector.answer? call.id = some (.ok snapshot)

/-- What accounts for what a cycle is told that ends with decisions: what it was answered by the
collector, and if the adviser has to be asked what it was advised. -/
def Accounts (s : Settings) (answer : Option (Except Fault Snapshot))
    (advised : Option Advice → Prop) (call : CycleCall) (h : ClusterHistory) : Told → Prop
  | .cancelled => False
  | .unavailable fault => answer = some (.error fault)
  | .readings snapshot offered =>
    answer = some (.ok snapshot)
      ∧ if Cycle.asksAdviser s (Cycle.draft s call.live snapshot h call.now) then advised offered
        else offered = none

/-- What can happen to a fleet by an event, and what is seen of it. -/
inductive Transition (f : Fleet) (e : Event) (f' : Fleet) : Sight → Prop where
  /-- Cycles, books and results stay as they are. -/
  | still (hvisits : f'.visits = f.visits) (hhistories : f'.histories = f.histories)
      (houtcomes : f'.outcomes = f.outcomes) : Transition f e f' .nothing
  /-- A cycle gets under way. -/
  | request (call : CycleCall) (hvisits : f'.visits = f.visits ++ [⟨call, .seeking⟩])
      (hhistories : f'.histories = f.histories) (houtcomes : f'.outcomes = f.outcomes) :
      Transition f e f' (.requested call)
  /-- A cycle is cancelled from the outset. -/
  | refuse (call : CycleCall) (hvisits : f'.visits = f.visits)
      (hhistories : f'.histories = f.histories)
      (houtcomes : f'.outcomes
        = f.outcomes ++ [(call.id, Cycle.cancelled call.cluster.key call.live call.now)]) :
      Transition f e f' (.refused call)
  /-- A cycle that does not hold a book moves on and does not get one. -/
  | approach (v : Visit) (rest : List Visit) (station : Station)
      (hperm : f.visits.Perm (v :: rest)) (hvisits : f'.visits = rest ++ [⟨v.call, station⟩])
      (hbefore : v.station.held? = none) (hafter : station.held? = none)
      (hbook : ∀ book, station.book? = some book →
        f'.histories.book? v.call.cluster.key = some book)
      (hhistories : f'.histories = f.histories
        ∨ f'.histories = (f.histories.provide v.call.cluster.key).1)
      (houtcomes : f'.outcomes = f.outcomes) : Transition f e f' .nothing
  /-- A cycle gets the book for which it has waited, and which nobody holds. -/
  | enter (call : CycleCall) (rest : List Visit) (book : Nat)
      (hperm : f.visits.Perm (⟨call, .waiting book⟩ :: rest))
      (hvisits : f'.visits = rest ++ [⟨call, .collecting book⟩]) (hfree : f.isHeld book = false)
      (hhistories : f'.histories = f.histories) (houtcomes : f'.outcomes = f.outcomes) :
      Transition f e f' (.entered call)
  /-- A cycle has readings and has to ask the adviser. -/
  | ask (call : CycleCall) (rest : List Visit) (book : Nat) (snapshot : Snapshot)
      (hperm : f.visits.Perm (⟨call, .collecting book⟩ :: rest))
      (hvisits : f'.visits = rest ++ [⟨call, .asking book snapshot
        (Cycle.draft f.settings call.live snapshot (f.histories.read book) call.now)⟩])
      (hasks : Cycle.asksAdviser f.settings
        (Cycle.draft f.settings call.live snapshot (f.histories.read book) call.now) = true)
      (hanswer : f.collector.answer? call.id = some (.ok snapshot))
      (hhistories : f'.histories = f.histories) (houtcomes : f'.outcomes = f.outcomes) :
      Transition f e f' .nothing
  /-- A cycle under way is cancelled. -/
  | leave (v : Visit) (rest : List Visit) (hperm : f.visits.Perm (v :: rest))
      (hvisits : f'.visits = rest) (hhistories : f'.histories = f.histories)
      (houtcomes : f'.outcomes
        = f.outcomes ++ [(v.call.id, Cycle.cancelled v.call.cluster.key v.call.live v.call.now)]) :
      Transition f e f' (.ended v.call .cancelled)
  /-- A cycle that holds a book ends with decisions and writes them into it. -/
  | commit (v : Visit) (rest : List Visit) (book : Nat) (told : Told)
      (hperm : f.visits.Perm (v :: rest)) (hvisits : f'.visits = rest)
      (hheld : v.station.held? = some book)
      (haccounts : Accounts f.settings (f.collector.answer? v.call.id)
        (fun advice => e = .advise v.call.id advice) v.call (f.histories.read book) told)
      (hhistories : f'.histories = f.histories.write book
        (Cycle.remember f.settings v.call.live (Cycle.outcome f.settings v.call.cluster.key
          v.call.live (f.histories.read book) v.call.now told) (f.histories.read book) v.call.now))
      (houtcomes : f'.outcomes = f.outcomes ++ [(v.call.id, Cycle.outcome f.settings
        v.call.cluster.key v.call.live (f.histories.read book) v.call.now told)]) :
      Transition f e f' (.ended v.call told)

/-- A cycle under way is one of the others and itself. -/
theorem perm_others {f : Fleet} {id : Nat} {v : Visit} (hv : f.visit? id = some v) :
    f.visits.Perm (v :: f.others v.call.id) := by
  obtain ⟨hid, before, after, hvisits, hbefore⟩ := List.find?_eq_some_iff_append.mp hv
  have hself : v.call.id = id := eq_of_beq hid
  have hothers : f.others v.call.id = before ++ after := by
    unfold others
    rw [hvisits, hself, List.eraseP_append_right _ (fun w hw => by simpa using hbefore w hw),
      List.eraseP_cons_of_pos (p := fun v : Visit => v.call.id == id) hid]
  rw [hothers, hvisits]
  exact List.perm_middle

theorem mem_of_visit? {f : Fleet} {id : Nat} {v : Visit} (hv : f.visit? id = some v) :
    v ∈ f.visits :=
  List.mem_of_find?_eq_some hv

theorem id_of_visit? {f : Fleet} {id : Nat} {v : Visit} (hv : f.visit? id = some v) :
    v.call.id = id :=
  eq_of_beq (List.find?_some (p := fun v : Visit => v.call.id == id) hv)

section

variable {f : Fleet} (hf : f.Orderly) (now : Moment) (id : Nat)

/-- Looking for a book is an approach. -/
theorem transition_look : Transition f (.look id) (f.step now (.look id)) .nothing := by
  unfold step
  dsimp only
  split
  · next call hv =>
    refine .approach ⟨call, .seeking⟩ _ _ (perm_others hv) rfl rfl ?_ ?_ (.inl rfl) rfl
    · cases f.histories.book? call.cluster.key <;> rfl
    · intro book hbook
      cases hknown : f.histories.book? call.cluster.key with
      | none =>
        rw [hknown] at hbook
        cases hbook
      | some other =>
        rw [hknown] at hbook
        exact hknown.trans hbook
  · exact .still rfl rfl rfl

/-- Having a book begun is an approach, which may make the cluster known. -/
theorem transition_begin : Transition f (.begin id) (f.step now (.begin id)) .nothing := by
  unfold step
  dsimp only
  split
  · next call hv =>
    refine .approach ⟨call, .missing⟩ _ _ (perm_others hv) rfl rfl rfl ?_ (.inr rfl) rfl
    intro book hbook
    refine Eq.trans ?_ hbook
    exact (HistoryStore.book?_provide f.histories call.cluster.key call.cluster.key).trans
      (if_pos rfl)
  · exact .still rfl rfl rfl

include hf in
/-- Queueing for a book is an approach. -/
theorem transition_queue : Transition f (.queue id) (f.step now (.queue id)) .nothing := by
  unfold step
  dsimp only
  split
  · next call book hv =>
    exact .approach ⟨call, .found book⟩ _ _ (perm_others hv) rfl rfl rfl
      (hf.booked _ (mem_of_visit? hv)) (.inl rfl) rfl
  · exact .still rfl rfl rfl

/-- The first in the queue gets the book if it is free. -/
theorem transition_enter :
    Transition f (.enter id) (f.step now (.enter id)) (f.see (.enter id)) := by
  cases hv : f.visit? id with
  | none =>
    simp only [step, see, hv]
    exact .still rfl rfl rfl
  | some v =>
    obtain ⟨call, station⟩ := v
    cases station with
    | waiting book =>
      simp only [step, see, hv]
      split
      · next hnext =>
        -- had somebody held the book, there would be nobody next
        have hfree : f.isHeld book = false := by
          unfold next? at hnext
          cases hheld : f.isHeld book with
          | false => rfl
          | true =>
            rw [hheld, if_pos rfl] at hnext
            cases hnext
        exact .enter call _ book (perm_others hv) rfl hfree rfl rfl
      · exact .still rfl rfl rfl
    | _ =>
      simp only [step, see, hv]
      exact .still rfl rfl rfl

/-- What comes of the result of a collection. -/
theorem transition_result {call : CycleCall} {book : Nat}
    (hv : f.visit? id = some ⟨call, .collecting book⟩) {result : Except Fault Snapshot}
    (hanswer : f.collector.answer? call.id = some result) (e : Event) :
    Transition f e (f.resume call book result)
      (match f.toldOf call book result with
        | some told => .ended call told
        | none => .nothing) := by
  cases result with
  | error fault =>
    -- a cancelled collection ends the cycle without decisions, any other failure holds both tiers
    cases fault with
    | cancelled => exact .leave ⟨call, .collecting book⟩ _ (perm_others hv) rfl rfl rfl
    | _ =>
      exact .commit ⟨call, .collecting book⟩ _ book (.unavailable _) (perm_others hv) rfl rfl
        hanswer rfl rfl
  | ok snapshot =>
    unfold resume toldOf
    dsimp only
    -- the drafts say whether the adviser has to be asked, and so whether the cycle ends here
    cases hasks : Cycle.asksAdviser f.settings
        (Cycle.draft f.settings call.live snapshot (f.histories.read book) call.now) with
    | true => exact .ask call _ book snapshot (perm_others hv) rfl hasks hanswer rfl rfl
    | false =>
      have houtcome := Cycle.outcome_readings f.settings call.cluster.key call.live
        (f.histories.read book) call.now hasks none
      refine .commit ⟨call, .collecting book⟩ _ book (.readings snapshot none) (perm_others hv) rfl
        rfl ⟨hanswer, ?_⟩ ?_ ?_
      · rw [hasks, if_neg Bool.false_ne_true]
      · rw [houtcome]
        rfl
      · rw [houtcome]
        rfl

/-- A cycle that learns about the readings ends, or asks the adviser. -/
theorem transition_resume :
    Transition f (.resume id) (f.step now (.resume id)) (f.see (.resume id)) := by
  cases hv : f.visit? id with
  | none =>
    simp only [step, see, hv]
    exact .still rfl rfl rfl
  | some v =>
    obtain ⟨call, station⟩ := v
    cases station with
    | collecting book =>
      simp only [step, see, hv]
      cases hanswer : f.collector.answer? id with
      | none => exact .still rfl rfl rfl
      | some result =>
        have hid : call.id = id := id_of_visit? hv
        exact transition_result id hv (hid ▸ hanswer) _
    | _ =>
      simp only [step, see, hv]
      exact .still rfl rfl rfl

include hf in
/-- A cycle ends with the reply of the adviser. -/
theorem transition_advise (advice : Option Advice) :
    Transition f (.advise id advice) (f.step now (.advise id advice))
      (f.see (.advise id advice)) := by
  cases hv : f.visit? id with
  | none =>
    simp only [step, see, hv]
    exact .still rfl rfl rfl
  | some v =>
    obtain ⟨call, station⟩ := v
    cases station with
    | asking book snapshot drafts =>
      simp only [step, see, hv]
      have hid : call.id = id := id_of_visit? hv
      -- the drafts were made before the adviser was asked, and are still what the book says
      obtain ⟨rfl, hasks, hanswer⟩ := hf.asking call book snapshot drafts (mem_of_visit? hv)
      have houtcome := Cycle.outcome_readings f.settings call.cluster.key call.live
        (f.histories.read book) call.now hasks advice
      refine .commit ⟨call, .asking book snapshot _⟩ _ book (.readings snapshot advice)
        (perm_others hv) rfl rfl ⟨hanswer, ?_⟩ ?_ ?_
      · rw [hasks, if_pos rfl, hid]
      · rw [houtcome]
        rfl
      · rw [houtcome]
        rfl
    | _ =>
      simp only [step, see, hv]
      exact .still rfl rfl rfl

/-- A cycle that is cancelled ends, unless it collects: then it waits for the collector. -/
theorem transition_cancel :
    Transition f (.cancel id) (f.step now (.cancel id)) (f.see (.cancel id)) := by
  cases hv : f.visit? id with
  | none =>
    simp only [step, see, hv]
    exact .still rfl rfl rfl
  | some v =>
    obtain ⟨call, station⟩ := v
    cases station with
    | collecting book =>
      simp only [step, see, hv, cancel]
      exact .still rfl rfl rfl
    | _ =>
      simp only [step, see, hv, cancel]
      exact .leave ⟨call, _⟩ _ (perm_others hv) rfl rfl rfl

include hf in
/-- **Nothing else can happen to an orderly fleet.** -/
theorem step_transition (e : Event) : Transition f e (f.step now e) (f.see e) := by
  cases e with
  | request call cancelled =>
    cases cancelled with
    | true => exact .refuse call rfl rfl rfl
    | false => exact .request call rfl rfl rfl
  | look id => exact transition_look now id
  | begin id => exact transition_begin now id
  | queue id => exact transition_queue hf now id
  | enter id => exact transition_enter now id
  | collector key e => exact .still rfl rfl rfl
  | resume id => exact transition_resume now id
  | advise id advice => exact transition_advise hf now id advice
  | cancel id => exact transition_cancel now id

end

end Fleet

end ClusterScaling
