import ClusterScaling.Metric

/-!
# Readings and snapshots

The readings of a tier hold a value for each field and say of each
whether it was collected in the present cycle. A value that was not is
kept out of every score, so `live?` is the only way by which a decision
looks at a reading. A snapshot is the readings of both tiers at one
moment, and whether some source failed to contribute.
-/

namespace ClusterScaling

open Document

/-- A value of a field. -/
structure Reading where
  /-- The value. -/
  value : Float
  /-- Whether the value was collected in this cycle. -/
  fresh : Bool

namespace Reading

/-- A value collected in this cycle. -/
def ofLive (x : Float) : Reading := ⟨x, true⟩

/-- No value. -/
def absent : Reading := ⟨0.0, false⟩

instance : Inhabited Reading := ⟨absent⟩

/-- The value, if it may be scored. -/
def live? (r : Reading) : Option Float := if r.fresh then some r.value else none

/-- A reading in a document. -/
def decode (d : Document) : Decoded Reading := do
  let r ← Record.ofDocument ["value", "fresh"] d
  let value ← r.read "value" asReal
  let fresh ← r.read "fresh" asFlag
  pure ⟨← r.required "value" value, ← r.required "fresh" fresh⟩

/-- A reading as a document. -/
def encode (r : Reading) : Document := mapping [("value", real r.value), ("fresh", flag r.fresh)]

@[simp]
theorem live?_ofLive (x : Float) : (ofLive x).live? = some x := rfl

@[simp]
theorem live?_absent : absent.live? = none := rfl

end Reading

/-- The readings of a tier, one for each field. -/
structure Readings where
  /-- Processor utilisation. -/
  cpu : Reading
  /-- Memory utilisation. -/
  memory : Reading
  /-- Latency of queries. -/
  queryLatency : Reading
  /-- Open connections. -/
  connectionCount : Reading
  /-- Queries per second. -/
  throughput : Reading
  /-- The custom metrics, by label. -/
  custom : Table Reading

namespace Readings

/-- The readings without any value. -/
def absent : Readings := ⟨.absent, .absent, .absent, .absent, .absent, .empty⟩

instance : Inhabited Readings := ⟨absent⟩

/-- The reading of a field. A label that was never set has none. -/
def get (m : Readings) : Field → Reading
  | .cpu => m.cpu
  | .memory => m.memory
  | .queryLatency => m.queryLatency
  | .connectionCount => m.connectionCount
  | .throughput => m.throughput
  | .custom label => (m.custom.get? label).getD .absent

/-- The readings with one field replaced. -/
def set (m : Readings) (f : Field) (r : Reading) : Readings :=
  match f with
  | .cpu => { m with cpu := r }
  | .memory => { m with memory := r }
  | .queryLatency => { m with queryLatency := r }
  | .connectionCount => { m with connectionCount := r }
  | .throughput => { m with throughput := r }
  | .custom label => { m with custom := m.custom.insert label r }

/-- Whether any field was collected in this cycle. -/
def hasFresh (m : Readings) : Bool :=
  ([m.cpu, m.memory, m.queryLatency, m.connectionCount, m.throughput] ++ m.custom.values).any
    (·.fresh)

/-- The readings in a document. -/
def decode (d : Document) : Decoded Readings := do
  let r ← Record.ofDocument
    ["cpu", "memory", "query_latency", "connection_count", "throughput", "custom"] d
  let cpu ← r.read "cpu" Reading.decode
  let memory ← r.read "memory" Reading.decode
  let latency ← r.read "query_latency" Reading.decode
  let connections ← r.read "connection_count" Reading.decode
  let throughput ← r.read "throughput" Reading.decode
  let custom ← r.read "custom" (asTable Reading.decode)
  let cpu ← r.required "cpu" cpu
  let memory ← r.required "memory" memory
  let latency ← r.required "query_latency" latency
  let connections ← r.required "connection_count" connections
  let throughput ← r.required "throughput" throughput
  pure ⟨cpu, memory, latency, connections, throughput, custom.getD .empty⟩

/-- The readings as a document. -/
def encode (m : Readings) : Document :=
  mapping [("cpu", m.cpu.encode), ("memory", m.memory.encode),
    ("query_latency", m.queryLatency.encode), ("connection_count", m.connectionCount.encode),
    ("throughput", m.throughput.encode), ("custom", ofTable Reading.encode m.custom)]

/-- **A field reads what was last set, and setting a field touches no other.** -/
@[simp]
theorem get_set (m : Readings) (f g : Field) (r : Reading) :
    (m.set f r).get g = if f = g then r else m.get g := by
  cases f <;> cases g <;> simp [get, set]
  split <;> rfl

end Readings

/-- The readings of both tiers at one moment. -/
structure Snapshot where
  /-- The readings of each tier. -/
  tiers : PerTier Readings
  /-- When the readings were collected, in milliseconds of the wall clock. -/
  collectedAt : UInt64
  /-- Whether some source did not contribute. -/
  degraded : Bool

namespace Snapshot

/-- A snapshot in a document. -/
def decode (d : Document) : Decoded Snapshot := do
  let r ← Record.ofDocument ["primary", "secondary", "collected_at", "degraded"] d
  let primary ← r.read "primary" Readings.decode
  let secondary ← r.read "secondary" Readings.decode
  let at_ ← r.read "collected_at" asWide
  let degraded ← r.read "degraded" asFlag
  let primary ← r.required "primary" primary
  let secondary ← r.required "secondary" secondary
  pure ⟨⟨primary, secondary⟩, ← r.required "collected_at" at_, ← r.required "degraded" degraded⟩

/-- A snapshot as a document. -/
def encode (s : Snapshot) : Document :=
  mapping [("primary", s.tiers.primaries.encode), ("secondary", s.tiers.secondaries.encode),
    ("collected_at", ofWide s.collectedAt), ("degraded", flag s.degraded)]

end Snapshot

end ClusterScaling
