import ClusterScaling.Collector
import ClusterScaling.Cycle

/-!
# Cycles that overlap

A fleet is everything that is remembered about clusters from cycle to
cycle, together with the cycles that are under way. As for the collector,
a run is a list of events, and an event that cannot happen changes
nothing.

The histories of a cluster are written in a book, and a cycle first has to
find that book: it looks for it, and if there is none it has one begun,
but not in the same step, so that others may have done so in between. The
book is held by one cycle at a time, from before it collects until it has
written its decisions, and cycles queue for it in the order in which they
have found it. So what a cycle decides on is what the cycle before it
left behind. A cycle may be cancelled while it looks and waits, while it
collects and while the adviser is asked; once the last of these is over
it runs to its end.
-/

namespace ClusterScaling

/-- A request for one cycle. -/
structure CycleCall where
  /-- The identity of the request. -/
  id : Nat
  /-- The cluster. -/
  cluster : Cluster
  /-- What is running. -/
  live : LiveState
  /-- The time as of which the cycle decides, in milliseconds of the wall clock. -/
  now : UInt64

/-- Where a cycle under way is. -/
inductive Station where
  /-- It is about to look for the histories of its cluster. -/
  | seeking
  /-- It has found none and is about to have them begun. -/
  | missing
  /-- It knows in which book they are and is about to queue for it. -/
  | found (book : Nat)
  /-- It waits for the book. -/
  | waiting (book : Nat)
  /-- It holds the book and waits for readings. -/
  | collecting (book : Nat)
  /-- It holds the book, has made up its mind about the readings, and waits for advice. -/
  | asking (book : Nat) (snapshot : Snapshot) (drafts : PerTier Draft)

namespace Station

/-- The book that a cycle has found. -/
def book? : Station → Option Nat
  | seeking | missing => none
  | found book | waiting book | collecting book | asking book _ _ => some book

/-- Whether a cycle holds a book. -/
def holds (book : Nat) : Station → Bool
  | collecting other | asking other _ _ => other == book
  | _ => false

/-- Whether a cycle waits for a book. -/
def waitsFor (book : Nat) : Station → Bool
  | waiting other => other == book
  | _ => false

end Station

/-- A cycle under way. -/
structure Visit where
  /-- The request. -/
  call : CycleCall
  /-- Where the cycle is. -/
  station : Station

/-- What is remembered about all clusters, and the cycles under way. -/
structure Fleet where
  /-- The settings of all clusters. -/
  settings : Settings
  /-- The collector. -/
  collector : Collector
  /-- The histories. -/
  histories : HistoryStore
  /-- The figures, if anybody records them. -/
  recorder : Option Recorder
  /-- The cycles under way. The one that has moved last stands last. -/
  visits : List Visit
  /-- The results of finished cycles by the identities of their requests, the latest last. -/
  outcomes : List (Nat × Outcome)

namespace Fleet

/-- A fleet about which nothing is known. -/
def start (s : Settings) (recorder : Option Recorder) : Fleet :=
  ⟨s, .start s.collector, .empty s.engine.historyCapacity, recorder, [], []⟩

/-- Something that happens to a fleet. -/
inductive Event where
  /-- A cycle is requested, perhaps by somebody who has already lost interest. -/
  | request (call : CycleCall) (cancelled : Bool)
  /-- A cycle looks for the histories of its cluster. -/
  | look (id : Nat)
  /-- A cycle that has found none has them begun, unless that has been done since. -/
  | begin (id : Nat)
  /-- A cycle queues for the book that it has found. -/
  | queue (id : Nat)
  /-- The first cycle in the queue gets the book and arrives in the slot of its cluster. -/
  | enter (id : Nat)
  /-- Something happens to the slot of a cluster. A cycle that has arrived there queues, say. -/
  | collector (key : String) (e : Slot.Event)
  /-- A cycle that holds a book learns what it was told about the readings. -/
  | resume (id : Nat)
  /-- The adviser of a cycle has answered or failed. -/
  | advise (id : Nat) (advice : Option Advice)
  /-- A cycle notices that it is cancelled. -/
  | cancel (id : Nat)

/-- The cycle under way with an identity. -/
def visit? (f : Fleet) (id : Nat) : Option Visit := f.visits.find? fun v => v.call.id == id

/-- The cycles under way without the one with an identity. -/
def others (f : Fleet) (id : Nat) : List Visit := f.visits.eraseP fun v => v.call.id == id

/-- The fleet in which a cycle under way has moved on. -/
def move (f : Fleet) (call : CycleCall) (station : Station) : Fleet :=
  { f with visits := f.others call.id ++ [⟨call, station⟩] }

/-- The fleet without a cycle. A book that the cycle held is free. -/
def dismiss (f : Fleet) (call : CycleCall) : Fleet := { f with visits := f.others call.id }

/-- Whether some cycle holds a book. -/
def isHeld (f : Fleet) (book : Nat) : Bool := f.visits.any fun v => v.station.holds book

/-- The cycle that can have a book now. -/
def next? (f : Fleet) (book : Nat) : Option Nat :=
  if f.isHeld book then none
  else (f.visits.find? fun v => v.station.waitsFor book).map fun v => v.call.id

/-- The fleet after a cycle has ended. -/
def conclude (f : Fleet) (call : CycleCall) (o : Outcome) : Fleet :=
  { f with outcomes := f.outcomes ++ [(call.id, o)] }

/-- The fleet after a cycle has been cancelled. Nothing is remembered of it. -/
def abandon (f : Fleet) (call : CycleCall) : Fleet :=
  f.conclude call (Cycle.cancelled call.cluster.key call.live call.now)

/-- The fleet after a cycle has ended with decisions, which are written into its book. -/
def commit (f : Fleet) (call : CycleCall) (book : Nat) (o : Outcome) : Fleet :=
  let h := Cycle.remember f.settings call.live o (f.histories.read book) call.now
  ({ f with
      histories := f.histories.write book h
      recorder := f.recorder.map fun r => Cycle.record r o }.dismiss call).conclude call o

/-- The fleet after a cycle has decided from what it has made up its mind about and the advice
it got. -/
def decide (f : Fleet) (call : CycleCall) (book : Nat) (snapshot : Snapshot)
    (drafts : PerTier Draft) (advice : Option Advice) : Fleet :=
  f.commit call book (Cycle.decide f.settings call.cluster.key call.live snapshot drafts advice
    (f.histories.read book) call.now)

/-- A cycle that holds a book learns about the readings. Without readings
both tiers are held, for the reason that there are none. -/
def resume (f : Fleet) (call : CycleCall) (book : Nat) (result : Except Fault Snapshot) : Fleet :=
  match result with
  | .error .cancelled => (f.dismiss call).abandon call
  | .error fault =>
    f.commit call book (Cycle.hold call.cluster.key call.live fault.message call.now)
  | .ok snapshot =>
    let drafts := Cycle.draft f.settings call.live snapshot (f.histories.read book) call.now
    if Cycle.asksAdviser f.settings drafts then f.move call (.asking book snapshot drafts)
    else f.decide call book snapshot drafts none

/-- A cycle notices that it is cancelled. While it collects it has the
collector cancelled and learns of that as of any other result. -/
def cancel (f : Fleet) (now : Moment) : Visit → Fleet
  | ⟨call, .collecting _⟩ =>
    { f with collector := f.collector.step now call.cluster.key (.cancel call.id) }
  | ⟨call, _⟩ => (f.dismiss call).abandon call

/-- What an event makes of a fleet. -/
def step (f : Fleet) (now : Moment) : Event → Fleet
  | .request call cancelled =>
    if cancelled then f.abandon call else { f with visits := f.visits ++ [⟨call, .seeking⟩] }
  | .look id =>
    match f.visit? id with
    | some ⟨call, .seeking⟩ =>
      f.move call ((f.histories.book? call.cluster.key).elim .missing .found)
    | _ => f
  | .begin id =>
    match f.visit? id with
    | some ⟨call, .missing⟩ =>
      let (histories, book) := f.histories.provide call.cluster.key
      { f with histories }.move call (.found book)
    | _ => f
  | .queue id =>
    match f.visit? id with
    | some ⟨call, .found book⟩ => f.move call (.waiting book)
    | _ => f
  | .enter id =>
    match f.visit? id with
    | some ⟨call, .waiting book⟩ =>
      if f.next? book = some id then
        { f.move call (.collecting book) with
          collector := f.collector.step now call.cluster.key (.arrive id) }
      else f
    | _ => f
  | .collector key e => { f with collector := f.collector.step now key e }
  | .resume id =>
    match f.visit? id with
    | some ⟨call, .collecting book⟩ =>
      match f.collector.answer? id with
      | some result => f.resume call book result
      | none => f
    | _ => f
  | .advise id advice =>
    match f.visit? id with
    | some ⟨call, .asking book snapshot drafts⟩ => f.decide call book snapshot drafts advice
    | _ => f
  | .cancel id =>
    match f.visit? id with
    | some visit => f.cancel now visit
    | none => f

/-- What a list of events, each at its moment, makes of a fleet. -/
def run (f : Fleet) (es : List (Moment × Event)) : Fleet :=
  es.foldl (fun f e => f.step e.1 e.2) f

/-- The result of a finished cycle. -/
def outcome? (f : Fleet) (id : Nat) : Option Outcome :=
  (f.outcomes.find? fun o => o.1 == id).map (·.2)

/-- The fleet when all answers and results have been handed over. -/
def handedOver (f : Fleet) : Fleet :=
  { f with collector := { f.collector with answers := [] }, outcomes := [] }

end Fleet

end ClusterScaling
