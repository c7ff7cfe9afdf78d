import ClusterScaling.Averaging
import ClusterScaling.Breaker

/-!
# Collecting metrics

Collecting is concurrent: callers overlap, sources answer late or never,
callers lose interest. The state of a collector is therefore a value, and
everything that can happen to it is an `Event`; a run is a list of
events, in whatever order the world produces them, and an event that
cannot happen in a state changes nothing.

Clusters share nothing, so an event happens to the `Slot` of one cluster.
A slot has a lock, which is held exactly while a fetch is in flight: a
caller that gets the lock either answers at once or starts a fetch. On
arrival a caller notes how many fetches have been completed; if the number
has grown by the time the caller gets the lock, somebody has fetched in
the meantime and the caller shares the result. That is how callers that
overlap share one fetch.

To arrive and to queue are two things. A caller that has arrived queues
next, but others may arrive, queue, and even fetch before it does. From
then on the lock is fair: who has queued first gets it first.

A caller that is cancelled leaves nothing behind: its fetch is abandoned,
and the slot is as if it had never asked, but for the circuits of sources
that have already answered.
-/

namespace ClusterScaling

/-- The present on two clocks. -/
structure Moment where
  /-- Nanoseconds on the clock that never goes back. -/
  clock : Nat
  /-- Milliseconds of the wall clock. -/
  wall : UInt64
  deriving DecidableEq, Repr

/-- How the task of asking a source ends. -/
inductive Ending where
  /-- The source reports. -/
  | reported (r : Report)
  /-- The source fails. -/
  | failed (fault : Fault)
  /-- The time for an answer is up. -/
  | timedOut
  /-- The task dies, and nobody learns how the source did. -/
  | died

/-- A snapshot that may be served again. -/
structure Cached where
  /-- The snapshot. -/
  snapshot : Snapshot
  /-- When it was fetched. -/
  fetchedAt : Nat

/-- A caller that has arrived and is about to queue. -/
structure Comer where
  /-- The caller. -/
  call : Nat
  /-- The number of completed fetches on its arrival. -/
  observed : Nat
  deriving DecidableEq

/-- Whether the given caller is the one. -/
def Comer.isCall (call : Nat) (w : Comer) : Bool := w.call == call

/-- Somebody who waits for the lock of a slot. -/
inductive Waiter where
  /-- A caller, and the number of completed fetches on its arrival. -/
  | collect (call observed : Nat)
  /-- Somebody who wants the cached snapshot to be dropped. -/
  | drop
  deriving DecidableEq

/-- A fetch in flight. -/
structure Fetch where
  /-- The caller that fetches. -/
  call : Nat
  /-- The sources that are asked. -/
  sources : List SourceRef
  /-- The sources whose turn has not come. -/
  pending : List SourceRef
  /-- The sources that are being asked. -/
  running : List SourceRef
  /-- What became of the others, the latest last. -/
  outcomes : List SourceOutcome

/-- Whether every source has been dealt with. -/
def Fetch.isComplete (f : Fetch) : Bool := f.pending.isEmpty && f.running.isEmpty

/-- What a caller is told. -/
structure Answer where
  /-- The caller. -/
  call : Nat
  /-- The snapshot, or why there is none. -/
  result : Except Fault Snapshot

/-- All that is kept about one cluster. -/
structure Slot where
  /-- How many fetches have been completed. -/
  generation : Nat
  /-- The snapshot that may be served again. -/
  cached : Option Cached
  /-- The result of the latest completed fetch. -/
  last : Option (Except Fault Snapshot)
  /-- The circuits of the sources, by identity. -/
  circuits : Table Circuit
  /-- The fetch in flight, whose caller holds the lock. -/
  fetch : Option Fetch
  /-- Those who wait for the lock, the first one first. -/
  queue : List Waiter
  /-- The callers that have arrived and do not wait yet. -/
  coming : List Comer

namespace Slot

/-- A slot about which nothing is known. -/
def empty : Slot := ⟨0, none, none, .empty, none, [], []⟩

instance : Inhabited Slot := ⟨empty⟩

/-- Something that happens to a slot. -/
inductive Event where
  /-- A caller arrives. -/
  | arrive (call : Nat)
  /-- A caller that has arrived queues for the lock. -/
  | queue (call : Nat)
  /-- Somebody wants the cached snapshot to be dropped. -/
  | askDrop
  /-- The first in the queue gets the free lock. The sources are those of the cluster now. -/
  | enter (sources : List SourceRef)
  /-- A caller notices that it is cancelled. -/
  | cancel (call : Nat)
  /-- The turn of the next source comes. -/
  | launch
  /-- The task of asking a source ends. -/
  | finish (id : String) (ending : Ending)
  /-- The fetch in flight notices that every source has been dealt with. -/
  | settle

/-- The circuit of a source. -/
def circuit (s : Slot) (id : String) : Circuit := (s.circuits.get? id).getD .fresh

/-- The slot with the circuit of a source replaced. -/
def setCircuit (s : Slot) (id : String) (c : Circuit) : Slot :=
  { s with circuits := s.circuits.insert id c }

/-- Sources without those whose identity has come up before. -/
def distinct (seen : List String) : List SourceRef → List SourceRef
  | [] => []
  | r :: rs => if r.id ∈ seen then distinct seen rs else r :: distinct (r.id :: seen) rs

/-- Whether a cached snapshot may still be served. -/
def isServable (c : CollectorSettings) (now : Moment) (cached : Cached) : Bool :=
  now.clock - cached.fetchedAt < c.cacheTtl.nanos

/-- What a caller that has the lock can be told without a fetch: the result
of a fetch completed since its arrival, or a snapshot that is young enough. -/
def ready? (c : CollectorSettings) (now : Moment) (s : Slot) (observed : Nat) :
    Option (Except Fault Snapshot) :=
  match if s.generation = observed then none else s.last with
  | some result => some result
  | none => (s.cached.filter (isServable c now)).map fun cached => .ok cached.snapshot

/-- The slot in which a caller has started a fetch. Each source gets a circuit. -/
def startFetch (s : Slot) (call : Nat) (sources : List SourceRef) : Slot :=
  let sources := distinct [] sources
  { s with
    circuits := sources.foldl (fun t r => t.insert r.id ((t.get? r.id).getD .fresh)) s.circuits
    fetch := some ⟨call, sources, sources, [], []⟩ }

/-- The first in the queue gets the lock, if it is free. -/
def enter (c : CollectorSettings) (now : Moment) (s : Slot) (sources : List SourceRef) :
    Slot × Option Answer :=
  match s.fetch, s.queue with
  | none, .drop :: rest => ({ s with cached := none, queue := rest }, none)
  | none, .collect call observed :: rest =>
    let s := { s with queue := rest }
    match ready? c now s observed with
    | some result => (s, some ⟨call, result⟩)
    | none => (s.startFetch call sources, none)
  | _, _ => (s, none)

/-- Whether somebody in the queue is the given caller. -/
def Waiter.isCall (call : Nat) : Waiter → Bool
  | .collect other _ => other == call
  | .drop => false

/-- A caller that has arrived queues with what it has noted. -/
def lineUp (s : Slot) (call : Nat) : Slot :=
  match s.coming.find? (Comer.isCall call) with
  | none => s
  | some w =>
    { s with queue := s.queue ++ [.collect w.call w.observed], coming := s.coming.erase w }

/-- Whether a caller waits or is about to. -/
def expects (s : Slot) (call : Nat) : Bool :=
  s.queue.any (Waiter.isCall call) || s.coming.any (Comer.isCall call)

/-- A caller gives up: its fetch is abandoned, or it does not wait any longer. -/
def cancel (s : Slot) (call : Nat) : Slot × Option Answer :=
  if s.fetch.any fun f => f.call == call then
    ({ s with fetch := none }, some ⟨call, .error .cancelled⟩)
  else if s.expects call then
    ({ s with
        queue := s.queue.filter fun w => !Waiter.isCall call w
        coming := s.coming.filter fun w => !Comer.isCall call w },
      some ⟨call, .error .cancelled⟩)
  else (s, none)

/-- How many sources are asked at once. -/
def width (c : CollectorSettings) : Nat := max c.maxConcurrency.toNat 1

/-- The turn of the next source comes, if there is room. Its circuit decides whether it is asked. -/
def launch (c : CollectorSettings) (now : Moment) (s : Slot) : Slot :=
  match s.fetch with
  | none => s
  | some f =>
    match f.pending with
    | [] => s
    | r :: rest =>
      if f.running.length < width c then
        let (allowed, circuit) := (s.circuit r.id).allow c.breakerLimits now.clock
        let f := { f with pending := rest }
        let f := if allowed then { f with running := f.running ++ [r] }
          else { f with outcomes := f.outcomes ++ [⟨r, .error (.circuitOpen r.id)⟩] }
        { s.setCircuit r.id circuit with fetch := some f }
      else s

/-- What a caller learns of a task, if it learns anything. -/
def resultOf (c : CollectorSettings) (id : String) : Ending → Option (Except Fault Report)
  | .reported r => some (.ok r)
  | .failed fault => some (.error fault)
  | .timedOut =>
    some (.error (.sourceFailed id ("timed out after " ++ c.fetchTimeout.display)))
  | .died => none

/-- The circuit of a source after a task. A task that died says nothing about its source. -/
def judge (c : CollectorSettings) (now : Moment) (circuit : Circuit) : Ending → Circuit
  | .reported _ => circuit.succeed c.breakerLimits
  | .failed _ | .timedOut => circuit.fail c.breakerLimits now.clock
  | .died => circuit

/-- The task of asking a source ends. -/
def finish (c : CollectorSettings) (now : Moment) (s : Slot) (id : String) (ending : Ending) :
    Slot :=
  match s.fetch with
  | none => s
  | some f =>
    match f.running.find? fun r => r.id = id with
    | none => s
    | some r =>
      let outcome := (resultOf c id ending).map fun result => (⟨r, result⟩ : SourceOutcome)
      let f := { f with
        running := f.running.filter fun r => r.id ≠ id
        outcomes := f.outcomes ++ outcome.toList }
      { s.setCircuit id (judge c now (s.circuit id) ending) with fetch := some f }

/-- The slot after a completed fetch with the given result. -/
def complete (s : Slot) (now : Moment) (result : Except Fault Snapshot) : Slot :=
  { s with
    generation := s.generation + 1
    cached := match result with
      | .ok snapshot => some ⟨snapshot, now.clock⟩
      | .error _ => s.cached
    last := some result
    fetch := none }

/-- The fetch in flight ends, if every source has been dealt with. -/
def settle (now : Moment) (s : Slot) : Slot × Option Answer :=
  match s.fetch with
  | none => (s, none)
  | some f =>
    if f.isComplete then
      let result := Averaging.snapshot f.sources f.outcomes now.wall
      (s.complete now result, some ⟨f.call, result⟩)
    else (s, none)

/-- What an event makes of a slot, and whom it answers. -/
def step (c : CollectorSettings) (now : Moment) (s : Slot) : Event → Slot × Option Answer
  | .arrive call => ({ s with coming := s.coming ++ [⟨call, s.generation⟩] }, none)
  | .queue call => (s.lineUp call, none)
  | .askDrop => ({ s with queue := s.queue ++ [.drop] }, none)
  | .enter sources => s.enter c now sources
  | .cancel call => s.cancel call
  | .launch => (s.launch c now, none)
  | .finish id ending => (s.finish c now id ending, none)
  | .settle => s.settle now

/-- To queue changes only who waits and who is about to. -/
theorem exists_lineUp (s : Slot) (call : Nat) :
    ∃ queue coming, s.lineUp call = { s with queue, coming } := by
  unfold lineUp
  split
  · exact ⟨s.queue, s.coming, rfl⟩
  · exact ⟨_, _, rfl⟩

/-- **A cancelled caller leaves the cached snapshot, the shared result and
the count of completed fetches as they were.** -/
theorem cancel_keeps (s : Slot) (call : Nat) :
    (s.cancel call).1.cached = s.cached ∧ (s.cancel call).1.last = s.last ∧
      (s.cancel call).1.generation = s.generation := by
  unfold cancel
  split
  · exact ⟨rfl, rfl, rfl⟩
  · split
    · exact ⟨rfl, rfl, rfl⟩
    · exact ⟨rfl, rfl, rfl⟩

end Slot

/-- The slots of all clusters, by key, and what callers have been told. -/
structure Collector where
  /-- How metrics are collected. -/
  settings : CollectorSettings
  /-- The slots of the clusters that were ever asked about. -/
  slots : Table Slot
  /-- The answers, the latest last. -/
  answers : List Answer

namespace Collector

/-- A collector that was never asked. -/
def start (c : CollectorSettings) : Collector := ⟨c, .empty, []⟩

/-- The slot of a cluster. -/
def slot (c : Collector) (key : String) : Slot := (c.slots.get? key).getD .empty

/-- What an event in the slot of a cluster makes of a collector. -/
def step (c : Collector) (now : Moment) (key : String) (e : Slot.Event) : Collector :=
  let (s, answer) := (c.slot key).step c.settings now e
  { c with slots := c.slots.insert key s, answers := c.answers ++ answer.toList }

/-- What a caller has been told. -/
def answer? (c : Collector) (call : Nat) : Option (Except Fault Snapshot) :=
  (c.answers.find? fun a => a.call == call).map Answer.result

/-- Drops the cached snapshot of a cluster on which nobody works. A
cluster that was never asked about stays unknown. -/
def invalidate (c : Collector) (now : Moment) (key : String) : Collector :=
  match c.slots.get? key with
  | none => c
  | some _ => (c.step now key .askDrop).step now key (.enter [])

/-- The circuit of a source, if the source was ever asked for the cluster. -/
def circuit? (c : Collector) (key id : String) : Option Circuit :=
  (c.slots.get? key).bind fun s => s.circuits.get? id

/-- **An event in one slot does not touch another.** -/
theorem slot_step_of_ne (c : Collector) (now : Moment) {key other : String} (h : key ≠ other)
    (e : Slot.Event) : (c.step now key e).slot other = c.slot other := by
  unfold slot step
  simp [h]

end Collector

end ClusterScaling
