import ClusterScaling.Proofs.Collector.Gathering

/-!
# Circuits know what is heard of their source

What `Slot.see` leaves out is what the sources of a fetch do. `Slot.hear`
says just that: whose turn has come and whether it was asked then, and how
a source that was asked has ended. Whether it was asked is read off the
slot after the event, as an onlooker would, and not off its circuit.

`Slot.Motion` lists what an event can do to the fetch in flight and to the
circuits, together with what is heard of it. From there on circuits follow
what is heard: at any time the circuit of a source is the one that a fresh
circuit has become by what was heard of that source alone
(`Collector.circuit_run`). Other sources do not come into it, nor what
happens in the slots of other clusters, where a source may have the same
identity.
-/

namespace ClusterScaling

namespace Slot

/-- What is heard of a source. -/
inductive Note where
  /-- Its turn has come, and it is asked. -/
  | asked
  /-- Its turn has come, and it is not asked. -/
  | skipped
  /-- It was asked and has reported. -/
  | succeeded
  /-- It was asked and has failed, or has not answered in time. -/
  | failed
  /-- It was asked and its task has died. -/
  | died
  deriving DecidableEq

/-- What is heard of the end of a task. -/
def Note.ofEnding : Ending → Note
  | .reported _ => .succeeded
  | .failed _ | .timedOut => .failed
  | .died => .died

/-- Whether a source is being asked. -/
def asks (s : Slot) (r : SourceRef) : Bool := s.fetch.any fun f => f.running.contains r

/-- What is heard of an event, and of which source. -/
def hear (c : CollectorSettings) (now : Moment) (s : Slot) : Event → Option (String × Note)
  | .launch =>
    match s.fetch with
    | some ⟨_, _, r :: _, running, _⟩ =>
      if running.length < width c then
        some (r.id, if (s.launch c now).asks r then .asked else .skipped)
      else none
    | _ => none
  | .finish id ending =>
    match s.fetch with
    | some f => (f.running.find? fun r => r.id = id).map fun _ => (id, .ofEnding ending)
    | none => none
  | .arrive _ | .queue _ | .askDrop | .enter _ | .cancel _ | .settle => none

end Slot

namespace Circuit

/-- A circuit after what is heard of its source at a time. -/
def note (l : BreakerLimits) (circuit : Circuit) (n : Nat × Slot.Note) : Circuit :=
  match n.2 with
  | .asked | .skipped => (circuit.allow l n.1).2
  | .succeeded => circuit.succeed l
  | .failed => circuit.fail l n.1
  | .died => circuit

/-- What becomes of a fresh circuit by what is heard of its source. -/
def replay (l : BreakerLimits) (notes : List (Nat × Slot.Note)) : Circuit :=
  notes.foldl (note l) .fresh

end Circuit

namespace Slot

/-- What an event can do to the fetch in flight and to the circuits, and what is heard of it. -/
inductive Motion (c : CollectorSettings) (now : Moment) (s : Slot) (e : Event) (s' : Slot) :
    Option (String × Note) → Prop where
  /-- The fetch goes on, or there is none. -/
  | still (hfetch : s'.fetch = s.fetch) (hcircuit : ∀ id, s'.circuit id = s.circuit id) :
      Motion c now s e s' none
  /-- A fetch begins. -/
  | begin (call : Nat) (sources : List SourceRef) (he : e = .enter sources)
      (hfree : s.fetch = none) (hfetch : s'.fetch = some (.ofSources call sources))
      (hcircuit : ∀ id, s'.circuit id = s.circuit id) : Motion c now s e s' none
  /-- A fetch ends. -/
  | ended (f : Fetch) (hfetch : s.fetch = some f)
      (hends : (s.see c now e).endsFetch f.call = true) (hover : s'.fetch = none)
      (hcircuit : ∀ id, s'.circuit id = s.circuit id) : Motion c now s e s' none
  /-- The turn of a source comes. -/
  | turn (f : Fetch) (r : SourceRef) (rest : List SourceRef) (allowed : Bool)
      (hfetch : s.fetch = some f) (hpending : f.pending = r :: rest)
      (hallowed : ((s.circuit r.id).allow c.breakerLimits now.clock).1 = allowed)
      (hturned : s'.fetch = some (f.turned r rest allowed))
      (hcircuit : ∀ id, s'.circuit id
        = if r.id = id then ((s.circuit id).allow c.breakerLimits now.clock).2
          else s.circuit id) :
      Motion c now s e s' (some (r.id, if allowed then .asked else .skipped))
  /-- A source that is asked comes to its end. -/
  | done (f : Fetch) (r : SourceRef) (ending : Ending) (hfetch : s.fetch = some f)
      (hfind : f.running.find? (fun other => other.id = r.id) = some r)
      (hdone : s'.fetch = some (f.done c r ending))
      (hcircuit : ∀ id, s'.circuit id
        = if r.id = id then judge c now (s.circuit id) ending else s.circuit id) :
      Motion c now s e s' (some (r.id, .ofEnding ending))

/-- A circuit that is put into a slot is found there. -/
theorem circuit_setCircuit (s : Slot) (id other : String) (circuit : Circuit) :
    (s.setCircuit id circuit).circuit other = if id = other then circuit else s.circuit other := by
  unfold Slot.circuit setCircuit
  dsimp only
  rw [Table.get?_insert]
  split <;> rfl

/-- A caller that starts a fetch leaves the circuits as they are. -/
theorem circuit_startFetch (s : Slot) (call : Nat) (sources : List SourceRef) (id : String) :
    (s.startFetch call sources).circuit id = s.circuit id := by
  unfold Slot.circuit startFetch
  dsimp only
  generalize distinct [] sources = rs
  generalize s.circuits = t
  induction rs generalizing t with
  | nil => rfl
  | cons r rs ih =>
    rw [List.foldl_cons, ih, Table.get?_insert]
    split
    · next hid =>
      rw [hid]
      rfl
    · rfl

section

variable (c : CollectorSettings) (now : Moment) {s : Slot}

/-- A source whose turn comes is asked if its circuit allows it. -/
theorem motion_launch (honce : ∀ f, s.fetch = some f → f.Once) :
    Motion c now s .launch (s.launch c now) (s.hear c now .launch) := by
  cases hfetch : s.fetch with
  | none =>
    simp only [launch, hear, hfetch]
    exact .still rfl fun _ => rfl
  | some f =>
    obtain ⟨call, sources, pending, running, outcomes⟩ := f
    cases pending with
    | nil =>
      simp only [launch, hear, hfetch]
      exact .still rfl fun _ => rfl
    | cons r rest =>
      by_cases hroom : running.length < width c
      · have hlaunch : s.launch c now
            = { s.setCircuit r.id ((s.circuit r.id).allow c.breakerLimits now.clock).2 with
                fetch := some (Fetch.turned ⟨call, sources, r :: rest, running, outcomes⟩ r rest
                  ((s.circuit r.id).allow c.breakerLimits now.clock).1) } := by
          simp only [launch, hfetch]
          rw [if_pos hroom]
          cases ((s.circuit r.id).allow c.breakerLimits now.clock).1 <;> rfl
        -- the source was not being asked before, so if it is now, its turn is the reason
        have hnot : r ∉ running := fun hmem => by
          have hnodup := honce _ hfetch
          unfold Fetch.Once Fetch.handled at hnodup
          rw [List.map_append, List.map_append] at hnodup
          have hdisjoint := (List.nodup_append.mp (List.nodup_append.mp hnodup).2.1).2.2
          exact hdisjoint r.id (List.mem_map_of_mem hmem) r.id (List.mem_map_of_mem
            List.mem_cons_self) rfl
        have hasks : (s.launch c now).asks r
            = ((s.circuit r.id).allow c.breakerLimits now.clock).1 := by
          rw [hlaunch]
          unfold asks Fetch.turned
          cases ((s.circuit r.id).allow c.breakerLimits now.clock).1 with
          | true => simp
          | false => simpa using hnot
        simp only [hear, hfetch]
        rw [if_pos hroom, hasks]
        refine .turn _ r rest _ hfetch rfl rfl (by rw [hlaunch]) fun id => ?_
        rw [hlaunch]
        refine (circuit_setCircuit s r.id id _).trans ?_
        split
        · next hid => rw [hid]
        · rfl
      · simp only [launch, hear, hfetch]
        rw [if_neg hroom, if_neg hroom]
        exact .still rfl fun _ => rfl

/-- A source that is asked comes to its end, and its circuit hears of it. -/
theorem motion_finish (id : String) (ending : Ending) :
    Motion c now s (.finish id ending) (s.finish c now id ending)
      (s.hear c now (.finish id ending)) := by
  cases hfetch : s.fetch with
  | none =>
    simp only [finish, hear, hfetch]
    exact .still rfl fun _ => rfl
  | some f =>
    cases hfind : f.running.find? fun r => r.id = id with
    | none =>
      simp only [finish, hear, hfetch, hfind]
      exact .still rfl fun _ => rfl
    | some r =>
      have hid : r.id = id := by simpa using List.find?_some hfind
      subst hid
      simp only [finish, hear, hfetch, hfind]
      refine .done f r ending hfetch hfind rfl fun other => ?_
      refine (circuit_setCircuit s r.id other _).trans ?_
      split
      · next hid => rw [hid]
      · rfl

/-- The first in the queue gets the lock and may start a fetch. -/
theorem motion_enter (sources : List SourceRef) :
    Motion c now s (.enter sources) (s.enter c now sources).1 none := by
  cases hfetch : s.fetch with
  | some f =>
    simp only [enter, hfetch]
    exact .still rfl fun _ => rfl
  | none =>
    cases hqueue : s.queue with
    | nil =>
      simp only [enter, hfetch, hqueue]
      exact .still rfl fun _ => rfl
    | cons w rest =>
      cases w with
      | drop =>
        simp only [enter, hfetch, hqueue]
        exact .still hfetch.symm fun _ => rfl
      | collect call observed =>
        rw [enter_collect hfetch hqueue]
        cases s.ready? c now observed with
        | some result => exact .still rfl fun _ => rfl
        | none =>
          exact .begin call sources rfl hfetch rfl fun id =>
            circuit_startFetch { s with queue := rest } call sources id

/-- A caller that gives up may end a fetch. -/
theorem motion_cancel (call : Nat) :
    Motion c now s (.cancel call) (s.cancel call).1 none := by
  cases hheld : s.fetch.any fun f => f.call == call with
  | true =>
    obtain ⟨f, hfetch, hcall⟩ := (Option.any_eq_true ..).mp hheld
    refine .ended f hfetch ?_ ?_ fun id => ?_
    · unfold see
      dsimp only
      rw [hheld, Bool.true_or, if_pos rfl]
      exact beq_iff_eq.mpr (beq_iff_eq.mp hcall).symm
    · unfold cancel
      rw [if_pos hheld]
    · unfold cancel
      rw [if_pos hheld]
      rfl
  | false =>
    unfold cancel
    rw [hheld, if_neg Bool.false_ne_true]
    split <;> exact .still rfl fun _ => rfl

/-- A fetch ends if every source has been dealt with. -/
theorem motion_settle : Motion c now s .settle (s.settle now).1 none := by
  cases hfetch : s.fetch with
  | none =>
    simp only [settle, hfetch]
    exact .still rfl fun _ => rfl
  | some f =>
    cases hcomplete : f.isComplete with
    | true =>
      simp only [settle, hfetch, hcomplete, if_true]
      refine .ended f hfetch ?_ rfl fun _ => rfl
      simp only [see, hfetch, hcomplete, if_true]
      exact beq_self_eq_true f.call
    | false =>
      simp only [settle, hfetch, hcomplete, Bool.false_eq_true, if_false]
      exact .still rfl fun _ => rfl

/-- **Nothing else can happen to a fetch and to the circuits**, if the fetch deals with no source
twice. -/
theorem step_motion (honce : ∀ f, s.fetch = some f → f.Once) (e : Event) :
    Motion c now s e (s.step c now e).1 (s.hear c now e) := by
  cases e with
  | arrive call => exact .still rfl fun _ => rfl
  | queue call =>
    obtain ⟨queue, coming, hline⟩ := s.exists_lineUp call
    show Motion c now s (.queue call) (s.lineUp call) none
    rw [hline]
    exact .still rfl fun _ => rfl
  | askDrop => exact .still rfl fun _ => rfl
  | enter sources => exact motion_enter c now sources
  | cancel call => exact motion_cancel c now call
  | launch => exact motion_launch c now honce
  | finish id ending => exact motion_finish c now id ending
  | settle => exact motion_settle c now

end

/-- What is heard of a source, out of what is heard. -/
def noteOf (id : String) (now : Moment) : Option (String × Note) → Option (Nat × Note)
  | some n => if n.1 = id then some (now.clock, n.2) else none
  | none => none

/-- What has been heard in a slot at each position of a run, the latest last. -/
abbrev Hearsay := List (Moment × Option (String × Note))

/-- What has been heard of a source. -/
def notesOf (id : String) (heard : Hearsay) : List (Nat × Note) :=
  heard.filterMap fun n => noteOf id n.1 n.2

theorem notesOf_cons (id : String) (n : Moment × Option (String × Note)) (heard : Hearsay) :
    notesOf id (n :: heard) = (noteOf id n.1 n.2).toList ++ notesOf id heard := by
  unfold notesOf
  rw [List.filterMap_cons]
  cases noteOf id n.1 n.2 <;> rfl

section

variable {c : CollectorSettings} {now : Moment} {s s' : Slot} {e : Event}
variable {heard : Option (String × Note)}

/-- **A circuit changes by what is heard of its source, and by nothing else.** -/
theorem Motion.circuit (hm : Motion c now s e s' heard) (id : String) :
    s'.circuit id
      = (noteOf id now heard).elim (s.circuit id) ((s.circuit id).note c.breakerLimits) := by
  cases hm with
  | still _ hcircuit => exact hcircuit id
  | begin _ _ _ _ _ hcircuit => exact hcircuit id
  | ended _ _ _ _ hcircuit => exact hcircuit id
  | turn f r rest allowed _ _ _ _ hcircuit =>
    rw [hcircuit id, noteOf]
    split
    · cases allowed <;> rfl
    · rfl
  | done f r ending _ _ _ hcircuit =>
    rw [hcircuit id, noteOf]
    split
    · cases ending <;> rfl
    · rfl

/-- A circuit that has heard of its source so far has heard of it after an event. -/
theorem Motion.replays (hm : Motion c now s e s' heard) {id : String} {circuit : Circuit}
    {notes : List (Nat × Note)} (h : s.circuit id = notes.foldl (.note c.breakerLimits) circuit) :
    s'.circuit id
      = (notes ++ (noteOf id now heard).toList).foldl (.note c.breakerLimits) circuit := by
  rw [hm.circuit id, List.foldl_append, ← h]
  cases noteOf id now heard <;> rfl

/-- Whatever happens, a fetch deals with no source twice. -/
theorem Motion.once (hm : Motion c now s e s' heard) (honce : ∀ f, s.fetch = some f → f.Once)
    {f' : Fetch} (hf' : s'.fetch = some f') : f'.Once := by
  cases hm with
  | still hfetch => exact honce f' (hfetch ▸ hf')
  | begin call sources _ _ hfetch =>
    cases Option.some.inj (hfetch.symm.trans hf')
    exact (ids_distinct [] sources).1
  | ended _ _ _ hover => cases hover.symm.trans hf'
  | turn f r rest allowed hfetch hpending _ hturned =>
    cases Option.some.inj (hturned.symm.trans hf')
    exact ids_subperm (Fetch.subperm_turned hpending allowed) (honce f hfetch)
  | done f r ending hfetch hfind hdone =>
    cases Option.some.inj (hdone.symm.trans hf')
    exact ids_subperm (Fetch.subperm_done c hfind ending) (honce f hfetch)

end

end Slot

/-! ## Runs of a collector -/

namespace Collector

open Slot

/-- What is heard of an event in the slot of a cluster: nothing if it happens in another slot. -/
def hear (c : Collector) (key : String) (e : Happening) : Option (String × Note) :=
  if e.2.1 = key then (c.slot key).hear c.settings e.1 e.2.2 else none

/-- What is heard of a run in the slot of a cluster. -/
def listen (c : Collector) (key : String) : List Happening → Hearsay
  | [] => []
  | e :: es => (e.1, c.hear key e) :: listen (c.step e.1 e.2.1 e.2.2) key es

section

variable (c : Collector) (key : String)

/-- The fetch in flight in the slot of a cluster deals with no source twice. -/
def Once : Prop := ∀ f, (c.slot key).fetch = some f → f.Once

variable {c key}

/-- **Whatever happens to a collector is a motion of the slot of a cluster.** -/
theorem step_motion (honce : c.Once key) (e : Happening) :
    Motion c.settings e.1 (c.slot key) e.2.2 ((c.step e.1 e.2.1 e.2.2).slot key)
      (c.hear key e) := by
  obtain ⟨now, other, e⟩ := e
  unfold hear
  dsimp only
  split
  · next hkey =>
    subst hkey
    rw [slot_step]
    exact Slot.step_motion c.settings now honce e
  · next hkey =>
    rw [slot_step_of_ne c now hkey e]
    exact .still rfl fun _ => rfl

theorem Once.step (honce : c.Once key) (e : Happening) :
    (c.step e.1 e.2.1 e.2.2).Once key :=
  fun _ hf => (step_motion honce e).once honce hf

theorem Once.run (honce : c.Once key) (es : List Happening) : (c.run es).Once key := by
  induction es generalizing c with
  | nil => exact honce
  | cons e es ih => exact ih (honce.step e)

/-- **A circuit becomes what is heard of its source makes of it**, whatever is heard of others. -/
theorem circuit_run (honce : c.Once key) (id : String) (es : List Happening) :
    ((c.run es).slot key).circuit id
      = (notesOf id (c.listen key es)).foldl (Circuit.note c.settings.breakerLimits)
          ((c.slot key).circuit id) := by
  -- on the events, with the collector free: an event leaves another circuit, and then the rest
  induction es generalizing c with
  | nil => rfl
  | cons e es ih =>
    show (((c.step e.1 e.2.1 e.2.2).run es).slot key).circuit id = _
    rw [ih (honce.step e), (step_motion honce e).circuit id, listen, notesOf_cons]
    cases noteOf id e.1 (c.hear key e) <;> rfl

end

theorem once_start (settings : CollectorSettings) (key : String) : (start settings).Once key :=
  fun _ hf => nomatch hf

/-- **The circuit of a source is what a fresh one has become by what was heard of the source** in
the slot of the cluster. -/
theorem circuit_slotAt (settings : CollectorSettings) (key id : String) (es : List Happening)
    (i : Nat) : ((start settings).slotAt key es i).circuit id
      = .replay settings.breakerLimits (notesOf id ((start settings).listen key (es.take i))) :=
  circuit_run (once_start settings key) id (es.take i)

end Collector

end ClusterScaling
