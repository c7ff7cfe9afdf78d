import ClusterScaling.Metric

/-!
# Settings

Everything the owner of a cluster can configure, one record for each
concern: the bounds and metrics of a tier, the rules that limit its
steps, the quorum, the zones, the adviser, the collection of metrics and
the decision itself. Each record is read from a document and written back
in full: what a document leaves out gets its usual value, and the usual
values are those of `usual`.
-/

namespace ClusterScaling

open Document

/-! ## Steps -/

/-- What the value of a step policy counts. -/
inductive StepKind where
  /-- Replicas. -/
  | pods
  /-- Hundredths of the live count. -/
  | percent
  deriving DecidableEq, Repr

namespace StepKind

/-- Every kind. -/
def all : List StepKind := [pods, percent]

/-- The name of a kind. -/
def name : StepKind → String
  | pods => "Pods"
  | percent => "Percent"

end StepKind

/-- A limit on the replicas moved within a period. -/
structure StepPolicy where
  /-- What the value counts. -/
  kind : StepKind
  /-- How much may be moved. -/
  value : UInt32
  /-- In which time. -/
  period : Duration
  deriving DecidableEq

namespace StepPolicy

/-- A policy in a document; its period is a minute if it says nothing else. -/
def decode (d : Document) : Decoded StepPolicy := do
  let r ← Record.ofDocument ["type", "value", "period"] d
  let kind ← r.read "type" (asVariant StepKind.all StepKind.name)
  let value ← r.read "value" asCount
  let period ← r.read "period" asDuration
  pure ⟨← r.required "type" kind, ← r.required "value" value, period.getD (.ofSeconds 60)⟩

/-- A policy as a document. -/
def encode (p : StepPolicy) : Document :=
  mapping [("type", text p.kind.name), ("value", ofCount p.value), ("period", ofDuration p.period)]

end StepPolicy

/-- Which of several step policies counts. -/
inductive StepChoice where
  /-- The most permissive one. -/
  | max
  /-- The most conservative one. -/
  | min
  /-- None: the direction is closed. -/
  | disabled
  deriving DecidableEq, Repr

namespace StepChoice

/-- Every choice. -/
def all : List StepChoice := [max, min, disabled]

/-- The name of a choice. -/
def name : StepChoice → String
  | max => "Max"
  | min => "Min"
  | disabled => "Disabled"

end StepChoice

/-- The rules that limit the steps in one direction. -/
structure StepRules where
  /-- How long an opposite change suppresses a step. -/
  window : Duration
  /-- The limits on the size of a step; without any the size is unlimited. -/
  policies : List StepPolicy
  /-- Which of the limits counts. -/
  choice : StepChoice
  deriving DecidableEq

namespace StepRules

/-- No limit at all. -/
def usual : StepRules := ⟨.zero, [], .max⟩

/-- The rules in a document. -/
def decode (d : Document) : Decoded StepRules := do
  let r ← Record.ofDocument ["stabilization_window", "policies", "select_policy"] d
  let window ← r.read "stabilization_window" asDuration
  let policies ← r.read "policies" (asList StepPolicy.decode)
  let choice ← r.read "select_policy" (asVariant StepChoice.all StepChoice.name)
  pure ⟨window.getD usual.window, policies.getD usual.policies, choice.getD usual.choice⟩

/-- The rules as a document. -/
def encode (r : StepRules) : Document :=
  mapping [("stabilization_window", ofDuration r.window),
    ("policies", ofList StepPolicy.encode r.policies), ("select_policy", text r.choice.name)]

end StepRules

/-- The rules that limit the steps of a tier. -/
structure Stepping where
  /-- The rules for adding replicas. -/
  up : StepRules
  /-- The rules for removing replicas. -/
  down : StepRules
  deriving DecidableEq

namespace Stepping

/-- No limit in either direction. -/
def usual : Stepping := ⟨.usual, .usual⟩

/-- The rules of both directions in a document. -/
def decode (d : Document) : Decoded Stepping := do
  let r ← Record.ofDocument ["scale_up", "scale_down"] d
  let up ← r.read "scale_up" StepRules.decode
  let down ← r.read "scale_down" StepRules.decode
  pure ⟨up.getD .usual, down.getD .usual⟩

/-- The rules of both directions as a document. -/
def encode (s : Stepping) : Document :=
  mapping [("scale_up", s.up.encode), ("scale_down", s.down.encode)]

end Stepping

/-! ## Tiers -/

/-- The bounds, metrics and rules of a tier. -/
structure TierSettings where
  /-- The least count of replicas. -/
  least : UInt32
  /-- The greatest count of replicas. -/
  most : UInt32
  /-- The metrics that the tier is scaled on. -/
  metrics : List MetricSpec
  /-- The rules that limit its steps. -/
  stepping : Stepping

namespace TierSettings

/-- A tier with bounds, but without metrics and without limits on its steps. -/
def ofBounds (least most : UInt32) : TierSettings := ⟨least, most, [], .usual⟩

/-- A count moved into the bounds, which have to be in order. -/
def clamp (t : TierSettings) (n : UInt32) : UInt32 :=
  if n < t.least then t.least else if t.most < n then t.most else n

/-- The settings of a tier in a document. -/
def decode (d : Document) : Decoded TierSettings := do
  let r ← Record.ofDocument ["min_replicas", "max_replicas", "metrics", "behavior"] d
  let least ← r.read "min_replicas" asCount
  let most ← r.read "max_replicas" asCount
  let metrics ← r.read "metrics" (asList MetricSpec.decode)
  let stepping ← r.read "behavior" Stepping.decode
  let least ← r.required "min_replicas" least
  let most ← r.required "max_replicas" most
  pure ⟨least, most, metrics.getD [], stepping.getD .usual⟩

/-- The settings of a tier as a document. -/
def encode (t : TierSettings) : Document :=
  mapping [("min_replicas", ofCount t.least), ("max_replicas", ofCount t.most),
    ("metrics", ofList MetricSpec.encode t.metrics), ("behavior", t.stepping.encode)]

end TierSettings

/-! ## Quorum and zones -/

/-- What the primaries need to stay able to vote. -/
structure QuorumSettings where
  /-- The least count of healthy primaries. -/
  minHealthy : UInt32
  /-- Whether a removal may go below it. -/
  allowBreak : Bool
  deriving DecidableEq

namespace QuorumSettings

/-- One healthy primary, always. -/
def usual : QuorumSettings := ⟨1, false⟩

/-- The quorum in a document. -/
def decode (d : Document) : Decoded QuorumSettings := do
  let r ← Record.ofDocument ["min_healthy_primaries", "allow_quorum_break"] d
  let minHealthy ← r.read "min_healthy_primaries" asCount
  let allowBreak ← r.read "allow_quorum_break" asFlag
  pure ⟨minHealthy.getD usual.minHealthy, allowBreak.getD usual.allowBreak⟩

/-- The quorum as a document. -/
def encode (q : QuorumSettings) : Document :=
  mapping [("min_healthy_primaries", ofCount q.minHealthy),
    ("allow_quorum_break", flag q.allowBreak)]

end QuorumSettings

/-- The zones that secondaries are spread over. -/
structure ZoneSettings where
  /-- The zones. -/
  zones : List String
  /-- The zones that are served first. -/
  preference : List String
  /-- How many replicas each zone should have at least. -/
  floor : UInt32
  /-- How far the counts of two zones may be apart. -/
  maxSkew : UInt32
  deriving DecidableEq

namespace ZoneSettings

/-- The zones in a document. -/
def decode (d : Document) : Decoded ZoneSettings := do
  let r ← Record.ofDocument
    ["zones", "zone_preference", "min_replicas_per_zone", "max_zone_skew"] d
  let zones ← r.read "zones" (asList asText)
  let preference ← r.read "zone_preference" (asList asText)
  let floor ← r.read "min_replicas_per_zone" asCount
  let maxSkew ← r.read "max_zone_skew" asCount
  pure ⟨← r.required "zones" zones, preference.getD [], floor.getD 1, maxSkew.getD 1⟩

/-- The zones as a document. -/
def encode (z : ZoneSettings) : Document :=
  mapping [("zones", ofList text z.zones), ("zone_preference", ofList text z.preference),
    ("min_replicas_per_zone", ofCount z.floor), ("max_zone_skew", ofCount z.maxSkew)]

end ZoneSettings

/-! ## The adviser -/

/-- An adviser that may propose targets of its own. -/
structure AdviserSettings where
  /-- Its address. -/
  url : String
  /-- The request method. -/
  method : String
  /-- How long it may take to answer. -/
  timeout : Duration
  /-- Whether it is asked at all. -/
  enabled : Bool
  deriving DecidableEq

namespace AdviserSettings

/-- The adviser in a document. -/
def decode (d : Document) : Decoded AdviserSettings := do
  let r ← Record.ofDocument ["url", "method", "timeout", "enabled"] d
  let url ← r.read "url" asText
  let method ← r.read "method" asText
  let timeout ← r.read "timeout" asDuration
  let enabled ← r.read "enabled" asFlag
  pure ⟨← r.required "url" url, method.getD "POST", timeout.getD (.ofSeconds 5),
    enabled.getD true⟩

/-- The adviser as a document. -/
def encode (a : AdviserSettings) : Document :=
  mapping [("url", text a.url), ("method", text a.method), ("timeout", ofDuration a.timeout),
    ("enabled", flag a.enabled)]

end AdviserSettings

/-! ## Collection and decision -/

/-- How metrics are collected. -/
structure CollectorSettings where
  /-- How long a snapshot may be served again. -/
  cacheTtl : Duration
  /-- How long a source may take. -/
  fetchTimeout : Duration
  /-- How many sources are asked at once. -/
  maxConcurrency : UInt64
  /-- How many failures in a row open a circuit. -/
  failureThreshold : UInt32
  /-- How long a circuit stays open. -/
  breakerCooldown : Duration
  /-- How many successes close a circuit again. -/
  successThreshold : UInt32
  deriving DecidableEq

namespace CollectorSettings

/-- The usual way of collecting. -/
def usual : CollectorSettings :=
  ⟨.ofSeconds 30, .ofSeconds 5, 4, 3, .ofSeconds 30, 1⟩

/-- The collection in a document. -/
def decode (d : Document) : Decoded CollectorSettings := do
  let r ← Record.ofDocument
    ["cache_ttl", "fetch_timeout", "max_concurrency", "breaker_failure_threshold",
      "breaker_cooldown", "breaker_success_threshold"] d
  let cacheTtl ← r.read "cache_ttl" asDuration
  let fetchTimeout ← r.read "fetch_timeout" asDuration
  let maxConcurrency ← r.read "max_concurrency" asWide
  let failureThreshold ← r.read "breaker_failure_threshold" asCount
  let breakerCooldown ← r.read "breaker_cooldown" asDuration
  let successThreshold ← r.read "breaker_success_threshold" asCount
  pure
    { cacheTtl := cacheTtl.getD usual.cacheTtl
      fetchTimeout := fetchTimeout.getD usual.fetchTimeout
      maxConcurrency := maxConcurrency.getD usual.maxConcurrency
      failureThreshold := failureThreshold.getD usual.failureThreshold
      breakerCooldown := breakerCooldown.getD usual.breakerCooldown
      successThreshold := successThreshold.getD usual.successThreshold }

/-- The collection as a document. -/
def encode (c : CollectorSettings) : Document :=
  mapping [("cache_ttl", ofDuration c.cacheTtl), ("fetch_timeout", ofDuration c.fetchTimeout),
    ("max_concurrency", ofWide c.maxConcurrency),
    ("breaker_failure_threshold", ofCount c.failureThreshold),
    ("breaker_cooldown", ofDuration c.breakerCooldown),
    ("breaker_success_threshold", ofCount c.successThreshold)]

end CollectorSettings

/-- How the loads of several metrics turn into a direction. -/
inductive TriggerPolicy where
  /-- One overloaded metric is enough to scale up, all have to be idle to scale down. -/
  | eagerUp
  /-- Only the weighted mean of the loads counts. -/
  | composite
  deriving DecidableEq, Repr

namespace TriggerPolicy

/-- Every policy. -/
def all : List TriggerPolicy := [eagerUp, composite]

/-- The name of a policy. -/
def name : TriggerPolicy → String
  | eagerUp => "eager_up_conservative_down"
  | composite => "composite"

end TriggerPolicy

/-- When the proposal of the adviser wins. -/
inductive Arbitration where
  /-- If the adviser is strictly surer. -/
  | higherConfidence
  /-- Whenever the adviser names a target. -/
  | preferWebhook
  /-- Never. -/
  | internalOnly
  deriving DecidableEq, Repr

namespace Arbitration

/-- Every way to arbitrate. -/
def all : List Arbitration := [higherConfidence, preferWebhook, internalOnly]

/-- The name of a way to arbitrate. -/
def name : Arbitration → String
  | higherConfidence => "higher_confidence"
  | preferWebhook => "prefer_webhook"
  | internalOnly => "internal_only"

end Arbitration

/-- How decisions are made. -/
structure EngineSettings where
  /-- The least time between two changes of a tier. -/
  cooldown : Duration
  /-- How far a load may be from one without asking for a change. -/
  tolerance : Float
  /-- How loads turn into a direction. -/
  trigger : TriggerPolicy
  /-- How many moves are remembered for a tier. -/
  historyCapacity : UInt64
  /-- How far the mean load has to be from one for full severity. -/
  severityScale : Float
  /-- When the adviser wins. -/
  arbitration : Arbitration

namespace EngineSettings

/-- The usual way of deciding. -/
def usual : EngineSettings :=
  ⟨.ofSeconds 300, 0.15, .eagerUp, 64, 0.5, .higherConfidence⟩

/-- The way of deciding in a document. -/
def decode (d : Document) : Decoded EngineSettings := do
  let r ← Record.ofDocument
    ["cooldown", "tolerance", "trigger_policy", "history_capacity", "severity_scale",
      "arbitration"] d
  let cooldown ← r.read "cooldown" asDuration
  let tolerance ← r.read "tolerance" asReal
  let trigger ← r.read "trigger_policy" (asVariant TriggerPolicy.all TriggerPolicy.name)
  let historyCapacity ← r.read "history_capacity" asWide
  let severityScale ← r.read "severity_scale" asReal
  let arbitration ← r.read "arbitration" (asVariant Arbitration.all Arbitration.name)
  pure
    { cooldown := cooldown.getD usual.cooldown
      tolerance := tolerance.getD usual.tolerance
      trigger := trigger.getD usual.trigger
      historyCapacity := historyCapacity.getD usual.historyCapacity
      severityScale := severityScale.getD usual.severityScale
      arbitration := arbitration.getD usual.arbitration }

/-- The way of deciding as a document. -/
def encode (e : EngineSettings) : Document :=
  mapping [("cooldown", ofDuration e.cooldown), ("tolerance", real e.tolerance),
    ("trigger_policy", text e.trigger.name), ("history_capacity", ofWide e.historyCapacity),
    ("severity_scale", real e.severityScale), ("arbitration", text e.arbitration.name)]

end EngineSettings

/-- All settings of a cluster. -/
structure Settings where
  /-- How decisions are made. -/
  engine : EngineSettings
  /-- How metrics are collected. -/
  collector : CollectorSettings
  /-- The bounds, metrics and rules of each tier. -/
  tiers : PerTier TierSettings
  /-- What the primaries need. -/
  quorum : QuorumSettings
  /-- The zones of the secondaries, if they are spread. -/
  zones : Option ZoneSettings
  /-- The adviser, if there is one. -/
  adviser : Option AdviserSettings

namespace Settings

/-- The settings of an owner who says nothing but how the tiers are scaled. -/
def ofTiers (primaries secondaries : TierSettings) : Settings :=
  ⟨.usual, .usual, ⟨primaries, secondaries⟩, .usual, none, none⟩

/-- The settings in a document. Only the tiers have no usual value. -/
def decode (d : Document) : Decoded Settings := do
  let r ← Record.ofDocument
    ["engine", "collector", "primaries", "secondaries", "quorum", "zones", "webhook"] d
  let engine ← r.read "engine" EngineSettings.decode
  let collector ← r.read "collector" CollectorSettings.decode
  let primaries ← r.read "primaries" TierSettings.decode
  let secondaries ← r.read "secondaries" TierSettings.decode
  let quorum ← r.read "quorum" QuorumSettings.decode
  let zones ← r.read "zones" (asOption ZoneSettings.decode)
  let adviser ← r.read "webhook" (asOption AdviserSettings.decode)
  let primaries ← r.required "primaries" primaries
  let secondaries ← r.required "secondaries" secondaries
  pure
    { engine := engine.getD .usual
      collector := collector.getD .usual
      tiers := ⟨primaries, secondaries⟩
      quorum := quorum.getD .usual
      zones := zones.join
      adviser := adviser.join }

/-- The settings as a document. -/
def encode (s : Settings) : Document :=
  mapping [("engine", s.engine.encode), ("collector", s.collector.encode),
    ("primaries", s.tiers.primaries.encode), ("secondaries", s.tiers.secondaries.encode),
    ("quorum", s.quorum.encode), ("zones", ofOption ZoneSettings.encode s.zones),
    ("webhook", ofOption AdviserSettings.encode s.adviser)]

end Settings

end ClusterScaling
