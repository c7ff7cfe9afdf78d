import ClusterScaling.Tier

/-!
# Metrics

A tier is scaled on a list of configured metrics. A `MetricSpec` says
which quantity is watched, what it should be, how much it counts and
where its live value comes from. What it reads is a `Field` of a tier's
readings: five quantities have a field of their own, and custom metrics
share one that is open-ended and told apart by their labels.
-/

namespace ClusterScaling

open Document

/-- The quantities that a metric can watch. -/
inductive MetricKind where
  /-- Processor utilisation in percent. -/
  | cpu
  /-- Memory utilisation in percent. -/
  | memory
  /-- Latency of queries in milliseconds. -/
  | queryLatency
  /-- Open connections of a member. -/
  | connectionCount
  /-- Queries per second of a member. -/
  | throughput
  /-- The result of a query of its own. -/
  | custom
  deriving DecidableEq, Repr

namespace MetricKind

/-- Every kind, in the order in which errors list them. -/
def all : List MetricKind := [cpu, memory, queryLatency, connectionCount, throughput, custom]

/-- The name of a kind. -/
def name : MetricKind → String
  | cpu => "cpu"
  | memory => "memory"
  | queryLatency => "query_latency"
  | connectionCount => "connection_count"
  | throughput => "throughput"
  | custom => "custom"

/-- A kind, by its name. -/
def decode : Document → Decoded MetricKind := asVariant all name

end MetricKind

/-- Where the live value of a metric comes from. -/
inductive Origin where
  /-- The metric endpoint of each member. -/
  | member
  /-- A query to the metrics database. -/
  | prometheus
  deriving DecidableEq, Repr

namespace Origin

/-- Every origin. -/
def all : List Origin := [member, prometheus]

/-- The name of an origin. -/
def name : Origin → String
  | member => "member"
  | prometheus => "prometheus"

/-- An origin, by its name. -/
def decode : Document → Decoded Origin := asVariant all name

end Origin

/-- A slot in the readings of a tier. -/
inductive Field where
  /-- Processor utilisation. -/
  | cpu
  /-- Memory utilisation. -/
  | memory
  /-- Latency of queries. -/
  | queryLatency
  /-- Open connections. -/
  | connectionCount
  /-- Queries per second. -/
  | throughput
  /-- The custom metric with the given label. -/
  | custom (label : String)
  deriving DecidableEq, Repr

namespace Field

/-- The name of a field. -/
def name : Field → String
  | cpu => "cpu"
  | memory => "memory"
  | queryLatency => "query_latency"
  | connectionCount => "connection_count"
  | throughput => "throughput"
  | custom label => "custom:" ++ label

/-- The field with a name. -/
def ofName? (s : String) : Option Field :=
  match s with
  | "cpu" => some cpu
  | "memory" => some memory
  | "query_latency" => some queryLatency
  | "connection_count" => some connectionCount
  | "throughput" => some throughput
  | s =>
    let mark := "custom:".toList
    if mark.isPrefixOf s.toList then some (custom (String.ofList (s.toList.drop mark.length)))
    else none

end Field

/-- A configured metric. -/
structure MetricSpec where
  /-- The quantity that is watched. -/
  kind : MetricKind
  /-- The target as the owner of the cluster wrote it. -/
  target : String
  /-- How much the metric counts. -/
  weight : Float
  /-- The label, if it is not the usual one. -/
  name : Option String
  /-- The query that gives the live value. -/
  query : Option String
  /-- The origin, if it is not the usual one. -/
  origin : Option Origin

namespace MetricSpec

/-- A metric of full weight under its usual label and from its usual origin. -/
def ofKind (kind : MetricKind) (target : String) : MetricSpec :=
  ⟨kind, target, 1.0, none, none, none⟩

/-- A custom metric with its query. -/
def ofQuery (name query target : String) (weight : Float) : MetricSpec :=
  ⟨.custom, target, weight, some name, some query, some .prometheus⟩

/-- The effective origin: the value of a custom metric is always queried. -/
def source (m : MetricSpec) : Origin :=
  match m.kind with
  | .custom => .prometheus
  | _ => m.origin.getD .member

/-- The label by which reasons mention the metric. -/
def label (m : MetricSpec) : String :=
  match m.name, m.query, m.kind with
  | some n, _, _ => n
  | none, some q, .custom => q
  | none, _, k => k.name

/-- The field that the metric reads. -/
def field (m : MetricSpec) : Field :=
  match m.kind with
  | .cpu => .cpu
  | .memory => .memory
  | .queryLatency => .queryLatency
  | .connectionCount => .connectionCount
  | .throughput => .throughput
  | .custom => .custom m.label

/-- A metric in a document. It weighs one if it says nothing else. -/
def decode (d : Document) : Decoded MetricSpec := do
  let r ← Record.ofDocument ["kind", "target", "weight", "name", "custom_query", "source"] d
  let kind ← r.read "kind" MetricKind.decode
  let target ← r.read "target" asText
  let weight ← r.read "weight" asReal
  let name ← r.read "name" (asOption asText)
  let query ← r.read "custom_query" (asOption asText)
  let origin ← r.read "source" (asOption Origin.decode)
  let kind ← r.required "kind" kind
  let target ← r.required "target" target
  pure ⟨kind, target, weight.getD 1.0, name.join, query.join, origin.join⟩

/-- A metric as a document. -/
def encode (m : MetricSpec) : Document :=
  mapping [("kind", text m.kind.name), ("target", text m.target), ("weight", real m.weight),
    ("name", ofOption text m.name), ("custom_query", ofOption text m.query),
    ("source", ofOption (text ·.name) m.origin)]

end MetricSpec

end ClusterScaling
