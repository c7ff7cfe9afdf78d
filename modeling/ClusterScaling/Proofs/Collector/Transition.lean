import ClusterScaling.Collector

/-!
# What an event does to a slot

An onlooker of the slot of a cluster sees who arrives and queues, who gets
the lock and what becomes of it, and who is told what: `Slot.see`. What the sources
of a fetch do is not seen before the fetch completes. `Slot.Transition`
lists what can happen to the lock, to those who wait for it or are about
to, and to what is remembered of completed fetches, together with what is seen of it, and
`Slot.step_transition` says that nothing else does. Whatever holds of
slots is proved transition by transition from here on, without another
look at `Slot.step`.

Of a fetch in flight only its caller matters here, who holds the lock
(`Slot.holder?`). A result of a fetch is never that somebody has been
cancelled, whatever the sources fail with: this is where cancellations are
kept from spreading. And of completed fetches only three things are
remembered, which change together or not at all: `Slot.Remembers` says
when, for those who do not ask who holds the lock.
-/

namespace ClusterScaling

namespace Slot

/-- What an onlooker sees of an event. -/
inductive Sight where
  /-- Nothing. -/
  | nothing
  /-- A caller arrives. -/
  | arrived (call : Nat)
  /-- A caller that has arrived queues. -/
  | queued (call : Nat)
  /-- The cached snapshot is dropped. -/
  | dropped
  /-- A caller gets the lock and starts a fetch. -/
  | began (call : Nat)
  /-- A caller gets the lock and is told at once. -/
  | shared (call : Nat) (result : Except Fault Snapshot)
  /-- A fetch completes, and its caller is told the result. -/
  | completed (call : Nat) (result : Except Fault Snapshot)
  /-- A caller is cancelled. -/
  | cancelled (call : Nat)

/-- Who is told what. -/
def Sight.answer? : Sight → Option Answer
  | shared call result | completed call result => some ⟨call, result⟩
  | cancelled call => some ⟨call, .error .cancelled⟩
  | _ => none

/-- Whether a fetch is seen to complete. -/
def Sight.isCompletion : Sight → Bool
  | completed _ _ => true
  | _ => false

/-- The caller that holds the lock. -/
def holder? (s : Slot) : Option Nat := s.fetch.map Fetch.call

/-- What is seen of an event. -/
def see (c : CollectorSettings) (now : Moment) (s : Slot) : Event → Sight
  | .arrive call => .arrived call
  | .queue call => if s.coming.any (Comer.isCall call) then .queued call else .nothing
  | .enter _ =>
    match s.fetch, s.queue with
    | none, .drop :: _ => .dropped
    | none, .collect call observed :: _ =>
      match s.ready? c now observed with
      | some result => .shared call result
      | none => .began call
    | _, _ => .nothing
  | .cancel call =>
    if (s.fetch.any fun f => f.call == call) || s.expects call then .cancelled call
    else .nothing
  | .settle =>
    match s.fetch with
    | some f =>
      if f.isComplete then .completed f.call (Averaging.snapshot f.sources f.outcomes now.wall)
      else .nothing
    | none => .nothing
  | .askDrop | .launch | .finish _ _ => .nothing

/-- What is remembered of completed fetches is the same in two slots. -/
structure Keeps (s s' : Slot) : Prop where
  /-- The cached snapshot is the same. -/
  cached : s'.cached = s.cached
  /-- The result of the latest completed fetch is the same. -/
  last : s'.last = s.last
  /-- As many fetches have been completed. -/
  generation : s'.generation = s.generation

theorem Keeps.refl (s : Slot) : Keeps s s := ⟨rfl, rfl, rfl⟩

theorem Keeps.trans {s s' s'' : Slot} (h : Keeps s s') (h' : Keeps s' s'') : Keeps s s'' :=
  ⟨h'.cached.trans h.cached, h'.last.trans h.last, h'.generation.trans h.generation⟩

/-- A caller that gets the lock is told at once, or starts a fetch. -/
theorem enter_collect {s : Slot} {call observed : Nat} {rest : List Waiter}
    (hfetch : s.fetch = none) (hqueue : s.queue = .collect call observed :: rest)
    (c : CollectorSettings) (now : Moment) (sources : List SourceRef) :
    s.enter c now sources = match s.ready? c now observed with
      | some result => ({ s with queue := rest }, some ⟨call, result⟩)
      | none => ({ s with queue := rest }.startFetch call sources, none) := by
  obtain ⟨generation, cached, last, circuits, fetch, queue⟩ := s
  cases hfetch
  cases hqueue
  rfl

/-- **Who is told something is seen to be told it.** -/
theorem answer?_see (c : CollectorSettings) (now : Moment) (s : Slot) (e : Event) :
    (s.see c now e).answer? = (s.step c now e).2 := by
  cases e with
  | enter sources =>
    cases hfetch : s.fetch with
    | some f =>
      simp only [see, step, enter, hfetch]
      rfl
    | none =>
      cases hqueue : s.queue with
      | nil =>
        simp only [see, step, enter, hfetch, hqueue]
        rfl
      | cons w rest =>
        cases w with
        | drop =>
          simp only [see, step, enter, hfetch, hqueue]
          rfl
        | collect call observed =>
          simp only [see, step, hfetch, hqueue]
          rw [enter_collect hfetch hqueue]
          cases s.ready? c now observed <;> rfl
  | cancel call =>
    unfold see step cancel
    dsimp only
    cases s.fetch.any fun f => f.call == call <;> cases s.expects call <;> rfl
  | settle =>
    cases hfetch : s.fetch with
    | none =>
      simp only [see, step, settle, hfetch]
      rfl
    | some f =>
      simp only [see, step, settle, hfetch]
      split <;> rfl
  | queue call =>
    unfold see step
    dsimp only
    split <;> rfl
  | arrive call => rfl
  | askDrop => rfl
  | launch => rfl
  | finish id ending => rfl

/-- Only a caller that is to be cancelled is seen to be. -/
theorem eq_cancel_of_see {c : CollectorSettings} {now : Moment} {s : Slot} {e : Event} {call : Nat}
    (h : s.see c now e = .cancelled call) : e = .cancel call := by
  cases e with
  | cancel other =>
    unfold see at h
    dsimp only at h
    split at h
    · cases h
      rfl
    · cases h
  | enter sources =>
    unfold see at h
    dsimp only at h
    split at h
    · cases h
    · split at h <;> cases h
    · cases h
  | settle =>
    unfold see at h
    dsimp only at h
    split at h
    · split at h <;> cases h
    · cases h
  | queue other =>
    unfold see at h
    dsimp only at h
    split at h <;> cases h
  | _ => cases h

/-- Only a caller that arrives is seen to. -/
theorem eq_arrive_of_see {c : CollectorSettings} {now : Moment} {s : Slot} {e : Event} {call : Nat}
    (h : s.see c now e = .arrived call) : e = .arrive call := by
  cases e with
  | arrive other =>
    cases h
    rfl
  | enter sources =>
    unfold see at h
    dsimp only at h
    split at h
    · cases h
    · split at h <;> cases h
    · cases h
  | cancel other | queue other =>
    unfold see at h
    dsimp only at h
    split at h <;> cases h
  | settle =>
    unfold see at h
    dsimp only at h
    split at h
    · split at h <;> cases h
    · cases h
  | _ => cases h

/-- How a caller can be told at once: with the result of a fetch that has been completed since it
arrived, or with the cached snapshot while that is young. -/
inductive Ready (c : CollectorSettings) (now : Moment) (s : Slot) (observed : Nat) :
    Except Fault Snapshot → Prop where
  /-- A fetch has been completed. -/
  | joined (result : Except Fault Snapshot) (hcount : s.generation ≠ observed)
      (hlast : s.last = some result) : Ready c now s observed result
  /-- None has, and the cached snapshot is young. -/
  | cached (k : Cached) (hcount : s.generation = observed ∨ s.last = none)
      (hcached : s.cached = some k) (hyoung : now.clock - k.fetchedAt < c.cacheTtl.nanos) :
      Ready c now s observed (.ok k.snapshot)

/-- What can happen to a slot by an event, and what is seen of it. -/
inductive Transition (c : CollectorSettings) (now : Moment) (s s' : Slot) : Sight → Prop where
  /-- Nobody comes or goes. -/
  | still (hkeeps : Keeps s s') (hholder : s'.holder? = s.holder?) (hqueue : s'.queue = s.queue)
      (hcoming : s'.coming = s.coming) : Transition c now s s' .nothing
  /-- Somebody queues who wants the cached snapshot to be dropped. -/
  | ask (hkeeps : Keeps s s') (hholder : s'.holder? = s.holder?)
      (hqueue : s'.queue = s.queue ++ [.drop]) (hcoming : s'.coming = s.coming) :
      Transition c now s s' .nothing
  /-- A caller arrives, and notes how many fetches have been completed. -/
  | arrive (call : Nat) (hkeeps : Keeps s s') (hholder : s'.holder? = s.holder?)
      (hqueue : s'.queue = s.queue) (hcoming : s'.coming = s.coming ++ [⟨call, s.generation⟩]) :
      Transition c now s s' (.arrived call)
  /-- A caller that has arrived queues. -/
  | queue (call observed : Nat) (hkeeps : Keeps s s') (hholder : s'.holder? = s.holder?)
      (hqueue : s'.queue = s.queue ++ [.collect call observed])
      (hcomes : ⟨call, observed⟩ ∈ s.coming) (hcoming : s'.coming = s.coming.erase ⟨call, observed⟩) :
      Transition c now s s' (.queued call)
  /-- The cached snapshot is dropped. -/
  | drop (hfree : s.holder? = none) (hqueue : s.queue = .drop :: s'.queue)
      (hholder : s'.holder? = none) (hcached : s'.cached = none) (hlast : s'.last = s.last)
      (hgeneration : s'.generation = s.generation) (hcoming : s'.coming = s.coming) :
      Transition c now s s' .dropped
  /-- A caller gets the lock and is told at once. -/
  | share (call observed : Nat) (result : Except Fault Snapshot) (hfree : s.holder? = none)
      (hqueue : s.queue = .collect call observed :: s'.queue) (hkeeps : Keeps s s')
      (hholder : s'.holder? = none) (hready : Ready c now s observed result)
      (hcoming : s'.coming = s.coming) : Transition c now s s' (.shared call result)
  /-- A caller gets the lock, cannot be told at once, and starts a fetch. -/
  | begin (call observed : Nat) (hfree : s.holder? = none)
      (hqueue : s.queue = .collect call observed :: s'.queue) (hkeeps : Keeps s s')
      (hholder : s'.holder? = some call) (hcount : s.generation = observed ∨ s.last = none)
      (hcoming : s'.coming = s.coming) : Transition c now s s' (.began call)
  /-- A fetch completes. -/
  | complete (call : Nat) (result : Except Fault Snapshot) (hholder : s.holder? = some call)
      (hfree : s'.holder? = none) (hqueue : s'.queue = s.queue)
      (hgeneration : s'.generation = s.generation + 1)
      (hcached : s'.cached = match result with
        | .ok snapshot => some ⟨snapshot, now.clock⟩
        | .error _ => s.cached)
      (hlast : s'.last = some result) (hresult : result ≠ .error .cancelled)
      (hcoming : s'.coming = s.coming) : Transition c now s s' (.completed call result)
  /-- A fetch is abandoned, because its caller is cancelled. -/
  | abandon (call : Nat) (hholder : s.holder? = some call) (hfree : s'.holder? = none)
      (hqueue : s'.queue = s.queue) (hkeeps : Keeps s s') (hcoming : s'.coming = s.coming) :
      Transition c now s s' (.cancelled call)
  /-- A caller that waits, or is about to, is cancelled. -/
  | leave (call : Nat) (hother : s.holder? ≠ some call) (hexpects : s.expects call = true)
      (hholder : s'.holder? = s.holder?)
      (hqueue : s'.queue = s.queue.filter fun w => !Waiter.isCall call w) (hkeeps : Keeps s s')
      (hcoming : s'.coming = s.coming.filter fun w => !Comer.isCall call w) :
      Transition c now s s' (.cancelled call)

/-- What becomes of what is remembered of completed fetches. -/
inductive Remembers (now : Moment) (s s' : Slot) : Sight → Prop where
  /-- It stays as it is. -/
  | kept (sight : Sight) (hkeeps : Keeps s s') (hdropped : sight ≠ .dropped)
      (hcompleted : sight.isCompletion = false) : Remembers now s s' sight
  /-- The cached snapshot is dropped. -/
  | dropped (hcached : s'.cached = none) (hlast : s'.last = s.last)
      (hgeneration : s'.generation = s.generation) : Remembers now s s' .dropped
  /-- One more fetch has been completed. -/
  | completed (call : Nat) (result : Except Fault Snapshot)
      (hgeneration : s'.generation = s.generation + 1)
      (hcached : s'.cached = match result with
        | .ok snapshot => some ⟨snapshot, now.clock⟩
        | .error _ => s.cached)
      (hlast : s'.last = some result) : Remembers now s s' (.completed call result)

/-- **What is remembered changes only when a fetch completes or the cached snapshot is dropped.** -/
theorem Transition.remembers {c : CollectorSettings} {now : Moment} {s s' : Slot} {sight : Sight}
    (ht : Transition c now s s' sight) : Remembers now s s' sight := by
  cases ht with
  | still hkeeps | ask hkeeps | arrive _ hkeeps | queue _ _ hkeeps | share _ _ _ _ _ hkeeps | begin _ _ _ _ hkeeps
    | abandon _ _ _ _ hkeeps | leave _ _ _ _ _ hkeeps => exact .kept _ hkeeps nofun rfl
  | drop _ _ _ hcached hlast hgeneration => exact .dropped hcached hlast hgeneration
  | complete call result _ _ _ hgeneration hcached hlast =>
    exact .completed call result hgeneration hcached hlast

section

variable (c : CollectorSettings) (now : Moment) (s : Slot)

/-- What is told at once is the result of a fetch completed since, or cached and young. -/
theorem ready_of_ready? {observed : Nat} {result : Except Fault Snapshot}
    (h : s.ready? c now observed = some result) : Ready c now s observed result := by
  unfold ready? at h
  split at h
  · next r hjoin =>
    cases h
    split at hjoin
    · cases hjoin
    · next hcount => exact .joined result hcount hjoin
  · next hjoin =>
    obtain ⟨k, hk, rfl⟩ := Option.map_eq_some_iff.mp h
    obtain ⟨hcached, hyoung⟩ := Option.filter_eq_some_iff.mp hk
    refine .cached k ?_ hcached (of_decide_eq_true hyoung)
    split at hjoin
    · next hcount => exact .inl hcount
    · exact .inr hjoin

/-- A caller that cannot be told at once has missed no completed fetch. -/
theorem count_of_ready? {observed : Nat} (h : s.ready? c now observed = none) :
    s.generation = observed ∨ s.last = none := by
  unfold ready? at h
  split at h
  · cases h
  · next hjoin =>
    split at hjoin
    · next hcount => exact .inl hcount
    · exact .inr hjoin

theorem holder?_eq_none_iff : s.holder? = none ↔ s.fetch = none := Option.map_eq_none_iff

/-- The first in the queue gets the free lock. -/
theorem transition_enter (sources : List SourceRef) :
    Transition c now s (s.step c now (.enter sources)).1 (s.see c now (.enter sources)) := by
  cases hfetch : s.fetch with
  | some f =>
    simp only [see, step, enter, hfetch]
    exact .still (.refl s) rfl rfl rfl
  | none =>
    have hfree : s.holder? = none := (holder?_eq_none_iff s).mpr hfetch
    cases hqueue : s.queue with
    | nil =>
      simp only [see, step, enter, hfetch, hqueue]
      exact .still (.refl s) rfl rfl rfl
    | cons w rest =>
      cases w with
      | drop =>
        simp only [see, step, enter, hfetch, hqueue]
        exact .drop hfree hqueue rfl rfl rfl rfl rfl
      | collect call observed =>
        simp only [see, step, hfetch, hqueue]
        rw [enter_collect hfetch hqueue]
        cases hready : s.ready? c now observed with
        | some result =>
          exact .share call observed result hfree hqueue ⟨rfl, rfl, rfl⟩ hfree
            (ready_of_ready? c now s hready) rfl
        | none =>
          exact .begin call observed hfree hqueue ⟨rfl, rfl, rfl⟩ rfl
            (count_of_ready? c now s hready) rfl

/-- A caller gives up its fetch or its place in the queue. -/
theorem transition_cancel (call : Nat) :
    Transition c now s (s.step c now (.cancel call)).1 (s.see c now (.cancel call)) := by
  have hholds : (s.fetch.any fun f => f.call == call) = true ↔ s.holder? = some call := by
    unfold holder?
    cases s.fetch with
    | none => simp
    | some f => simp
  unfold see step cancel
  dsimp only
  cases hfetch : s.fetch.any fun f => f.call == call with
  | true =>
    exact .abandon call (hholds.mp hfetch) rfl rfl ⟨rfl, rfl, rfl⟩ rfl
  | false =>
    have hother : s.holder? ≠ some call := fun h => by
      rw [hholds.mpr h] at hfetch
      cases hfetch
    cases hexpects : s.expects call with
    | true => exact .leave call hother hexpects rfl rfl ⟨rfl, rfl, rfl⟩ rfl
    | false => exact .still (.refl s) rfl rfl rfl

/-- The comer with an identity is among those who come. -/
theorem find?_coming (call : Nat) :
    (s.coming.any (Comer.isCall call) = false ∧ s.coming.find? (Comer.isCall call) = none)
      ∨ s.coming.any (Comer.isCall call) = true ∧ ∃ observed,
        s.coming.find? (Comer.isCall call) = some ⟨call, observed⟩
          ∧ ⟨call, observed⟩ ∈ s.coming := by
  cases hfind : s.coming.find? (Comer.isCall call) with
  | none =>
    refine .inl ⟨List.any_eq_false.mpr fun w hw => ?_, rfl⟩
    exact List.find?_eq_none.mp hfind w hw
  | some w =>
    obtain ⟨other, observed⟩ := w
    have hmem := List.mem_of_find?_eq_some hfind
    have hcall : Comer.isCall call ⟨other, observed⟩ = true := List.find?_some hfind
    obtain rfl : other = call := eq_of_beq hcall
    exact .inr ⟨List.any_eq_true.mpr ⟨_, hmem, beq_self_eq_true other⟩, observed, rfl, hmem⟩

/-- A caller that has arrived queues. -/
theorem transition_queue (call : Nat) :
    Transition c now s (s.step c now (.queue call)).1 (s.see c now (.queue call)) := by
  unfold see step lineUp
  dsimp only
  rcases find?_coming s call with ⟨hany, hfind⟩ | ⟨hany, observed, hfind, hmem⟩
  · rw [hany, hfind]
    exact .still (.refl s) rfl rfl rfl
  · rw [hany, hfind]
    exact .queue call observed ⟨rfl, rfl, rfl⟩ rfl rfl hmem rfl

/-- The turn of a source, or its end, moves no caller. -/
theorem transition_launch : Transition c now s (s.launch c now) .nothing := by
  unfold launch
  split
  · exact .still (.refl s) rfl rfl rfl
  · next f hfetch =>
    split
    · exact .still (.refl s) rfl rfl rfl
    · split
      · refine .still ⟨rfl, rfl, rfl⟩ ?_ rfl rfl
        -- the circuit says whether the source is asked, the caller is the same either way
        unfold holder?
        rw [hfetch]
        dsimp only [Option.map_some]
        split <;> rfl
      · exact .still (.refl s) rfl rfl rfl

theorem transition_finish (id : String) (ending : Ending) :
    Transition c now s (s.finish c now id ending) .nothing := by
  unfold finish
  split
  · exact .still (.refl s) rfl rfl rfl
  · next f hfetch =>
    split
    · exact .still (.refl s) rfl rfl rfl
    · refine .still ⟨rfl, rfl, rfl⟩ ?_ rfl rfl
      unfold holder?
      rw [hfetch]
      rfl

/-- **A fetch does not fail because somebody is cancelled**, whatever its sources fail with. -/
theorem snapshot_ne_cancelled (asked : List SourceRef) (outcomes : List SourceOutcome)
    (wall : UInt64) : Averaging.snapshot asked outcomes wall ≠ .error .cancelled := by
  unfold Averaging.snapshot
  dsimp only
  split <;> exact nofun

/-- A fetch completes if every source has been dealt with. -/
theorem transition_settle :
    Transition c now s (s.step c now .settle).1 (s.see c now .settle) := by
  cases hfetch : s.fetch with
  | none =>
    simp only [see, step, settle, hfetch]
    exact .still (.refl s) rfl rfl rfl
  | some f =>
    have hholder : s.holder? = some f.call := by
      unfold holder?
      rw [hfetch]
      rfl
    simp only [see, step, settle, hfetch]
    split
    · exact .complete f.call _ hholder rfl rfl rfl rfl rfl (snapshot_ne_cancelled _ _ _) rfl
    · exact .still (.refl s) rfl rfl rfl

/-- **Nothing else can happen to a slot.** -/
theorem step_transition (e : Event) :
    Transition c now s (s.step c now e).1 (s.see c now e) := by
  cases e with
  | arrive call => exact .arrive call ⟨rfl, rfl, rfl⟩ rfl rfl rfl
  | queue call => exact transition_queue c now s call
  | askDrop => exact .ask ⟨rfl, rfl, rfl⟩ rfl rfl rfl
  | enter sources => exact transition_enter c now s sources
  | cancel call => exact transition_cancel c now s call
  | launch => exact transition_launch c now s
  | finish id ending => exact transition_finish c now s id ending
  | settle => exact transition_settle c now s

end

end Slot

end ClusterScaling
