import ClusterScaling.Scene

/-!
# Rehearsals

A rehearsal plays a scene. Everybody in it is either waiting or has a
turn coming, and turns are taken one at a time, in the order in which
they came up. A caller that has a turn coming gets no second one. Time
stands still as long as somebody has a turn; then it moves on to the
earliest alarm, and everybody whose alarm that is gets a turn, those who
set theirs first before the others.

Three rules make the order of what happens at one instant:

* a source leaves its room before it tells its caller that it is done, so
  the next source has its turn before that caller, unless the caller has
  one coming already;
* a caller looks first at whether it has lost interest, and only then at
  what has become of its work;
* whoever gives up a lock gives the next one in the queue a turn. The
  lock counts as taken from then on.

So an answer that comes in the very instant in which its caller loses
interest still counts for the circuit of its source, but no further
source is asked. A caller that lets everybody else go first also has the
others asked before it notices.
-/

namespace ClusterScaling

/-- What somebody does with a turn. -/
inductive Act where
  /-- A caller arrives. -/
  | arrive
  /-- The patience of a caller begins to run out. -/
  | wind (patience : Nat)
  /-- The patience of a caller has run out. -/
  | expire
  /-- A caller looks around. -/
  | look
  /-- The next source of a fetch looks for room. -/
  | ask
  /-- A source is done. -/
  | done (source : String) (ending : Ending)

/-- A turn, for the sake of the caller with an identity. -/
structure Turn where
  /-- The identity of the caller. -/
  call : Nat
  /-- What is done. -/
  act : Act

/-- Whether it is a caller's turn to look around. -/
def Turn.isLook (t : Turn) : Bool :=
  match t.act with
  | .look => true
  | _ => false

/-- A turn that comes later. -/
structure Alarm where
  /-- When it comes. -/
  due : Nat
  /-- The turn. -/
  turn : Turn

/-- The failures of a fetch in the order of the identities of the sources. -/
def Fetch.failures (f : Fetch) : List (String × Fault) :=
  (SourceOutcome.sorted f.outcomes).filterMap fun o =>
    match o.result with
    | .ok _ => none
    | .error fault => some (o.source.id, fault)

/-- A rehearsal at some point, and what has been noticed so far. -/
structure Rehearsal where
  /-- The fleet. -/
  fleet : Fleet
  /-- How many milliseconds have passed. -/
  time : Nat
  /-- The turns that have come up, the first one first. -/
  turns : List Turn
  /-- The turns that come later, in the order in which the alarms were set. -/
  alarms : List Alarm
  /-- The callers that are cancelled. -/
  cancelled : List Nat
  /-- How many sources were asked. -/
  asked : Nat
  /-- How many of them at once, at most. -/
  peak : Nat
  /-- The sources that failed, and how, by fetches as they ended and then by identity. -/
  failures : List (String × Fault)
  /-- Why advisers gave no advice. -/
  unadvised : List Fault

namespace Rehearsal

/-- The rehearsal of a scene before anything has happened. -/
def start (s : Scene) (f : Fleet) : Rehearsal where
  fleet := f.handedOver
  time := 0
  turns := []
  alarms := s.jobs.map fun j => ⟨j.start, j.work.id, .arrive⟩
  cancelled := []
  asked := 0
  peak := 0
  failures := []
  unadvised := []

/-! ## Turns -/

/-- Somebody gets a turn after all others. -/
def enqueue (r : Rehearsal) (t : Turn) : Rehearsal := { r with turns := r.turns ++ [t] }

/-- A caller gets a turn, unless it has one coming. -/
def wake (r : Rehearsal) (call : Nat) : Rehearsal :=
  if r.turns.any fun t => t.isLook && t.call == call then r else r.enqueue ⟨call, .look⟩

/-- Somebody gets a turn after a while. -/
def setAlarm (r : Rehearsal) (wait : Nat) (t : Turn) : Rehearsal :=
  { r with alarms := r.alarms ++ [⟨r.time + wait, t⟩] }

/-- The earliest alarms go off. -/
def moveOn? (r : Rehearsal) : Option Rehearsal :=
  (r.alarms.map Alarm.due).min?.map fun time =>
    let (due, later) := r.alarms.partition fun a => a.due ≤ time
    { r with time, turns := r.turns ++ due.map Alarm.turn, alarms := later }

/-! ## What can be seen -/

/-- The slot of a cluster. -/
def slot (r : Rehearsal) (key : String) : Slot := r.fleet.collector.slot key

/-- The fetch of a caller, while it lasts. -/
def fetch? (r : Rehearsal) (w : Work) : Option Fetch :=
  (r.slot w.key).fetch.filter fun f => f.call = w.id

/-- Whether a caller is cancelled. -/
def isCancelled (r : Rehearsal) (w : Work) : Bool := r.cancelled.contains w.id

/-- Whether a caller still waits for its result. -/
def isWaiting (r : Rehearsal) : Work → Bool
  | .collect call _ => (r.fleet.collector.answer? call).isNone
  | .cycle call => (r.fleet.outcome? call.id).isNone

/-- The cycle that can have the histories of a cluster now. -/
def nextCycle? (r : Rehearsal) (key : String) : Option Nat :=
  (r.fleet.histories.book? key).bind r.fleet.next?

/-- The caller that can have the lock of a slot now. -/
def nextCaller? (r : Rehearsal) (key : String) : Option Nat :=
  match (r.slot key).fetch, (r.slot key).queue with
  | none, .collect call _ :: _ => some call
  | _, _ => none

/-- How many sources are being asked. -/
def running (r : Rehearsal) : Nat :=
  (r.fleet.collector.slots.entries.map fun (_, s) =>
    s.fetch.elim 0 fun f => f.running.length).foldr (· + ·) 0

/-- The time that a source has for its answer, in whole milliseconds. -/
def limit (r : Rehearsal) : Nat :=
  (r.fleet.collector.settings.fetchTimeout.nanos + 999999) / 1000000

/-- Those who can have a lock or the histories of a cluster now get a turn. -/
def handOver (r : Rehearsal) (key : String) : Rehearsal :=
  let r := (r.nextCaller? key).elim r r.wake
  (r.nextCycle? key).elim r r.wake

/-- A source of a caller has been dealt with. Its room goes to the next one, if one waits. -/
def leaveRoom (r : Rehearsal) (w : Work) : Rehearsal :=
  let r := match r.fetch? w with
    | some f => if f.pending.isEmpty then r else r.enqueue ⟨w.id, .ask⟩
    | none => r
  r.wake w.id

end Rehearsal

namespace Scene

/-- The rehearsal after an event. -/
def tell (s : Scene) (r : Rehearsal) (e : Fleet.Event) : Rehearsal :=
  { r with fleet := r.fleet.step s.now e }

/-- The rehearsal after an event in the slot of the cluster of a caller. -/
def tellSlot (s : Scene) (r : Rehearsal) (w : Work) (e : Slot.Event) : Rehearsal :=
  s.tell r (.collector w.key e)

/-! ## Sources -/

/-- A source that a caller has asked is done. If the caller has given up, nobody notices. -/
def done (s : Scene) (r : Rehearsal) (w : Work) (source : String) (ending : Ending) : Rehearsal :=
  match r.fetch? w with
  | some _ => (s.tellSlot r w (.finish source ending)).leaveRoom w
  | none => r

/-- A caller has asked a source, which is done at once or later. -/
def send (s : Scene) (r : Rehearsal) (w : Work) (source : ScriptedSource) : Rehearsal :=
  let r := { r with asked := r.asked + 1, peak := max r.peak r.running }
  let (wait, ending) := source.fate r.limit
  if wait = 0 then s.done r w source.ref.id ending
  else r.setAlarm wait ⟨w.id, .done source.ref.id ending⟩

/-- The next source of a caller is asked, if there is room and its circuit allows it. -/
def ask (s : Scene) (r : Rehearsal) (j : Job) : Rehearsal :=
  match (r.fetch? j.work).bind fun f => f.pending.head? with
  | none => r
  | some next =>
    let r := s.tellSlot r j.work .launch
    match r.fetch? j.work with
    | none => r
    | some f =>
      if next ∈ f.pending then r
      else if next ∈ f.running then
        ((s.sourcesOf j).find? fun source => source.ref = next).elim r (s.send r j.work)
      else r.leaveRoom j.work

/-! ## Callers -/

/-- A caller gives up, wherever it is. -/
def dismiss (s : Scene) (r : Rehearsal) (w : Work) : Rehearsal :=
  let r := s.tellSlot (s.tell r (.cancel w.id)) w (.cancel w.id)
  s.tell r (.resume w.id)

/-- A caller gets the histories, if its turn in the line has come. It queues for the lock, and
nobody comes in between. -/
def takeHistories (s : Scene) (r : Rehearsal) (w : Work) : Rehearsal :=
  if r.nextCycle? w.key = some w.id then s.tellSlot (s.tell r (.enter w.id)) w (.queue w.id)
  else r

/-- A caller gets the lock, if its turn in the queue has come. If it starts a fetch, every source
gets a turn. -/
def takeLock (s : Scene) (r : Rehearsal) (j : Job) : Rehearsal :=
  if r.nextCaller? j.work.key = some j.work.id then
    let r := s.tellSlot r j.work (.enter ((s.sourcesOf j).map ScriptedSource.ref))
    match r.fetch? j.work with
    | some f => f.pending.foldl (fun r _ => r.enqueue ⟨j.work.id, .ask⟩) r
    | none => r
  else r

/-- A caller ends its fetch, if every source has been dealt with. -/
def settle (s : Scene) (r : Rehearsal) (w : Work) : Rehearsal :=
  match r.fetch? w with
  | some f =>
    if f.isComplete then
      s.tellSlot { r with failures := r.failures ++ f.failures } w .settle
    else r
  | none => r

/-- The adviser is asked, if a cycle wants advice. -/
def consult (s : Scene) (r : Rehearsal) (w : Work) : Rehearsal :=
  match r.fleet.visit? w.id with
  | some ⟨call, .asking _ snapshot _⟩ =>
    match s.advice call.cluster snapshot call.live.replicas with
    | .ok advice => s.tell r (.advise w.id (some advice))
    | .error fault => s.tell { r with unadvised := r.unadvised ++ [fault] } (.advise w.id none)
  | _ => r

/-- A caller goes on as far as it gets. -/
def proceed (s : Scene) (r : Rehearsal) (j : Job) : Rehearsal :=
  let r := s.takeLock (s.takeHistories r j.work) j
  s.consult (s.tell (s.settle r j.work) (.resume j.work.id)) j.work

/-- A caller looks around, if it still waits for something. -/
def look (s : Scene) (r : Rehearsal) (j : Job) : Rehearsal :=
  if r.isWaiting j.work then
    (if r.isCancelled j.work then s.dismiss r j.work else s.proceed r j).handOver j.work.key
  else r

/-- A cycle finds the histories of its cluster and queues for them. Nobody comes in between. -/
def approach (s : Scene) (r : Rehearsal) (call : CycleCall) : Rehearsal :=
  s.tell (s.tell (s.tell r (.look call.id)) (.begin call.id)) (.queue call.id)

/-- A caller arrives. One without patience has lost interest before it asks for anything. -/
def arrive (s : Scene) (r : Rehearsal) (j : Job) : Rehearsal :=
  let r := match j.patience with
    | none => r
    | some 0 => { r with cancelled := j.work.id :: r.cancelled }
    | some patience => r.enqueue ⟨j.work.id, .wind patience⟩
  let r := match j.work with
    | .collect call _ => s.tellSlot (s.tellSlot r j.work (.arrive call)) j.work (.queue call)
    | .cycle call => s.approach (s.tell r (.request call (r.isCancelled j.work))) call
  s.look r j

/-! ## The play -/

/-- A turn is taken. -/
def take (s : Scene) (r : Rehearsal) (j : Job) : Act → Rehearsal
  | .arrive => s.arrive r j
  | .wind patience => r.setAlarm patience ⟨j.work.id, .expire⟩
  | .expire => { r with cancelled := j.work.id :: r.cancelled }.wake j.work.id
  | .look => s.look r j
  | .ask => s.ask r j
  | .done source ending => s.done r j.work source ending

/-- The order in which turns are taken. -/
def order (s : Scene) (turns : List Turn) : List Turn :=
  if s.callersLast then turns.filter (!·.isLook) ++ turns.filter Turn.isLook else turns

/-- What happens next, if anything does. -/
def next? (s : Scene) (r : Rehearsal) : Option Rehearsal :=
  match s.order r.turns with
  | [] => r.moveOn?
  | t :: turns =>
    let r := { r with turns }
    some ((s.job? t.call).elim r fun j => s.take r j t.act)

/-- At most the given number of things happen. -/
def play (s : Scene) : Nat → Rehearsal → Rehearsal
  | 0, r => r
  | n + 1, r =>
    match s.next? r with
    | some r => s.play n r
    | none => r

/-- A bound on the number of things that happen. A caller arrives, its
patience is wound up and runs out, and it looks around for that, for the
histories and for the lock; arrival and end of patience need an alarm
each. Each of its sources looks for room, perhaps has another one do so,
has an alarm, is done, and makes the caller look around. -/
def span (s : Scene) : Nat := (s.jobs.map fun j => 8 + 5 * (s.sourcesOf j).length).foldr (· + ·) 0

/-- The whole rehearsal with a fleet. -/
def run (s : Scene) (f : Fleet) : Rehearsal := s.play s.span (.start s f)

end Scene

end ClusterScaling
