import ClusterScaling.Averaging
import ClusterScaling.Http.Exchange
import ClusterScaling.Json.Reader
import ClusterScaling.Metric.Target
import ClusterScaling.Text.Percent

/-!
# Sources of metrics

A source is something that is asked for readings and may fail on its own.
There are two kinds: the metrics page of a member, which reports every
quantity that is not custom, and an instant query to a metrics database,
which reports one field. `Probe.resolve` says which sources a tier has:
its members if any metric reads from members, and one query for each
field that is queried.

The identity of a source is text, because circuits are kept under it and
faults mention it.
-/

namespace ClusterScaling

open Document

/-- A source of metrics. -/
inductive Probe where
  /-- The metrics page of a member. -/
  | member (tier : Tier) (address : String)
  /-- A query to a metrics database at a base address, for a field. -/
  | query (tier : Tier) (base query : String) (field : Field)
  deriving DecidableEq, Repr

namespace Probe

/-- The tier that the source reports on. -/
def tier : Probe → Tier
  | member t _ => t
  | query t _ _ _ => t

/-- The identity of the source. -/
def id : Probe → String
  | member t address => t.name ++ "/member/" ++ address
  | query t _ _ field => t.name ++ "/prometheus/" ++ field.name

/-- A base address without the slashes at its end. -/
def dropSlashes (base : String) : String :=
  String.ofList (base.toList.reverse.dropWhile (· == '/')).reverse

/-- The address that is asked. -/
def url : Probe → String
  | member _ address => "http://" ++ address ++ "/metrics"
  | query _ base q _ =>
    dropSlashes base ++ "/api/v1/query?query=" ++ Text.percentEncoded q

/-! ## Which sources a tier has -/

/-- The members of a tier, if any metric reads from members. -/
def members (c : Cluster) (tier : Tier) (specs : List MetricSpec) : List Probe :=
  if specs.any fun m => m.source == .member then (c.members.get tier).map (member tier) else []

/-- The query of a metric, if the metric is queried and there is something to query. -/
def ofSpec? (c : Cluster) (tier : Tier) (m : MetricSpec) : Option Probe :=
  match m.source, c.prometheusUrl, m.query with
  | .prometheus, some base, some q => some (query tier base q m.field)
  | _, _, _ => none

/-- The queries whose fields are not among those seen, the first one for each field. -/
def distinctFields (seen : List Field) : List Probe → List Probe
  | [] => []
  | query t base q field :: ps =>
    if field ∈ seen then distinctFields seen ps
    else query t base q field :: distinctFields (field :: seen) ps
  | p :: ps => p :: distinctFields seen ps

/-- The sources of a tier. -/
def resolve (c : Cluster) (tier : Tier) (specs : List MetricSpec) : List Probe :=
  members c tier specs ++ distinctFields [] (specs.filterMap (ofSpec? c tier))

/-- The sources of a cluster whose tiers are scaled on the given metrics. -/
def ofCluster (c : Cluster) (specs : PerTier (List MetricSpec)) : List Probe :=
  Tier.all.flatMap fun t => resolve c t (specs.get t)

/-- The source as far as its collection is concerned. -/
def ref (p : Probe) : SourceRef := ⟨p.id, p.tier⟩

/-! ## What a source reports -/

/-- What stands in a fault for the complaint about a body that is not as it should be. -/
def malformedBody : String := "<json>"

/-- The names under which a member reports, and the fields. -/
def memberFields : List (String × Field) :=
  [("cpu", .cpu), ("memory", .memory), ("query_latency_ms", .queryLatency),
    ("connections", .connectionCount), ("throughput", .throughput)]

/-- The report on a member's metrics page. Values that are not finite are left out. -/
def memberReport (d : Document) : Decoded Report := do
  let r ← Record.ofDocument (memberFields.map (·.1)) d
  let values ← memberFields.mapM fun f => do
    let v ← r.nullable (← r.read f.1 (asOption asReal))
    pure (f.2, v)
  pure (values.filterMap fun v =>
    match v.2 with
    | some x => if x.isFinite then some (v.1, x) else none
    | none => none)

/-- What a metrics database answers. -/
structure QueryAnswer where
  /-- Whether the query succeeded, in a word. -/
  status : String
  /-- The kind of the result and the result. -/
  data : Option (String × Document)
  /-- What went wrong. -/
  error : Option String

/-- Whether every token of a document denotes something and the document
nests at most so deep. -/
def isReadable (room : Nat) : Document → Bool
  | .unreadable | .torn _ => false
  | .sequence items => room != 0 && items.attach.all fun d => isReadable (room - 1) d.1
  | .mapping entries => room != 0 && entries.attach.all fun e => isReadable (room - 1) e.1.2
  | _ => true
  termination_by d => sizeOf d
  decreasing_by
    · have := List.sizeOf_lt_of_mem d.2
      simp only [Document.sequence.sizeOf_spec]
      omega
    · have h := List.sizeOf_lt_of_mem e.2
      have : sizeOf e.1.2 < sizeOf e.1 := by
        rcases e.1 with ⟨a, b⟩
        simp only [Prod.mk.sizeOf_spec]
        omega
      simp only [Document.mapping.sizeOf_spec]
      omega

/-- How deep a result may nest: an answer may nest 127 deep, and a result
stands inside of two mappings. -/
def deepestResult : Nat := 125

/-- A result of any shape. -/
def asAny (d : Document) : Decoded Document :=
  if isReadable deepestResult d then pure d else throw .unreadable

/-- A result with its kind. -/
def asResult (d : Document) : Decoded (String × Document) := do
  let r ← Record.ofDocument ["resultType", "result"] d
  let kind ← r.read "resultType" asText
  let result ← r.read "result" asAny
  let kind ← r.required "resultType" kind
  pure (kind, ← r.required "result" result)

/-- The answer in a document. -/
def QueryAnswer.decode (d : Document) : Decoded QueryAnswer := do
  let r ← Record.ofDocument ["status", "data", "error"] d
  let status ← r.read "status" asText
  let data ← r.read "data" (asOption asResult)
  let error ← r.read "error" (asOption asText)
  pure ⟨← r.required "status" status, data.join, error.join⟩

/-- An item of a sequence. -/
def item? (n : Nat) : Document → Option Document
  | .sequence items => items[n]?
  | _ => none

/-- The sample of a scalar or of the first element of a vector: the second item of a pair. -/
def QueryAnswer.sample? (a : QueryAnswer) : Option String := do
  let (kind, result) ← a.data
  let pair ←
    if kind = "vector" then (item? 0 result).bind (field? "value")
    else if kind = "scalar" then some result
    else none
  match ← item? 1 pair with
  | text s => some s
  | _ => none

/-- The value that an answer gives, or why it gives none. -/
def QueryAnswer.value (a : QueryAnswer) : Except String Float :=
  if a.status != "success" then .error (a.error.getD a.status)
  else
    match a.sample? with
    | none => .error "query returned no samples"
    | some raw =>
      match (Decimal.read? raw.toList).filter Float.isFinite with
      | some x => .ok x
      | none => .error ("non-numeric sample " ++ Text.quoted raw)

/-- What is made of an answer. Only a member's status is looked at; a
database says in the body whether it succeeded. -/
def ofReply (p : Probe) (r : Http.Reply) : Except String Report :=
  match p with
  | member _ _ =>
    if !r.isSuccess then .error ("status " ++ r.statusText)
    else
      (Json.decode memberReport r.body).mapError fun _ => malformedBody
  | query _ _ _ field =>
    match Json.decode QueryAnswer.decode r.body with
    | .ok answer => answer.value.map fun x => [(field, x)]
    | .error _ => .error malformedBody

/-- Asks a source. -/
def fetch (net : Http.Network) (limit : Duration) (p : Probe) : Except Fault Report :=
  let failed (reason : String) : Fault := .sourceFailed p.id reason
  match Http.get net p.url limit with
  | .error failure => .error (failed failure.message)
  | .ok reply => (p.ofReply reply).mapError failed

end Probe

end ClusterScaling
