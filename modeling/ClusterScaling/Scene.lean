import ClusterScaling.Fleet

/-!
# Scenes

A fleet only says what each event makes of it; which event comes next is
up to the world. A scene is a world in which all that is settled
beforehand: every source has a script, which says how long it takes to
answer and what it answers, and every caller has a time of arrival and
perhaps a patience, after which it loses interest. Time is counted in
whole milliseconds.
-/

namespace ClusterScaling

/-- A source that follows a script. -/
structure ScriptedSource where
  /-- The source. -/
  ref : SourceRef
  /-- How being asked ends if nobody interrupts it. -/
  ending : Ending
  /-- How many milliseconds that takes. -/
  delay : Nat

/-- The end of asking a source, and after how long it comes. A source that takes longer than the
limit is interrupted. -/
def ScriptedSource.fate (s : ScriptedSource) (limit : Nat) : Nat × Ending :=
  if s.delay ≤ limit then (s.delay, s.ending) else (limit, .timedOut)

/-- What a caller wants. -/
inductive Work where
  /-- The readings of a cluster, for the caller with the given identity. -/
  | collect (call : Nat) (cluster : Cluster)
  /-- A whole cycle. -/
  | cycle (call : CycleCall)

namespace Work

/-- The identity of the caller. -/
def id : Work → Nat
  | .collect call _ => call
  | .cycle call => call.id

/-- The cluster that the caller asks about. -/
def cluster : Work → Cluster
  | .collect _ cluster => cluster
  | .cycle call => call.cluster

/-- The key of the cluster that the caller asks about. -/
def key (w : Work) : String := w.cluster.key

end Work

/-- A caller of a scene. -/
structure Job where
  /-- What the caller wants. -/
  work : Work
  /-- When it arrives. -/
  start : Nat
  /-- How long after its arrival it loses interest, if it does. -/
  patience : Option Nat

/-- Everything that is settled beforehand. -/
structure Scene where
  /-- The present, which the clocks show throughout. -/
  now : Moment
  /-- The sources of a cluster. -/
  sources : Cluster → List ScriptedSource
  /-- What an adviser answers about a cluster with the given readings and counts. -/
  advice : Cluster → Snapshot → Replicas → Except Fault Advice
  /-- The callers. Their identities differ. -/
  jobs : List Job
  /-- Whether a caller lets everybody else go first when it is about to look around. -/
  callersLast : Bool

namespace Scene

/-- The caller with an identity. -/
def job? (s : Scene) (call : Nat) : Option Job := s.jobs.find? fun j => j.work.id = call

/-- The sources of the cluster about which a caller asks. -/
def sourcesOf (s : Scene) (j : Job) : List ScriptedSource := s.sources j.work.cluster

end Scene

end ClusterScaling
