import ClusterScaling.Fault
import ClusterScaling.Metric.Target
import ClusterScaling.Settings

/-!
# Which settings make sense

Settings that can be read may still ask for the impossible: bounds out of
order, a quorum that no odd count satisfies, a preference for a zone that
does not exist. `Settings.check` looks for the first such demand and
names it; each concern has its own check, and the checks run in the order
in which the concerns are declared, the tiers first.

`Settings.Valid` says the same as a proposition, concern by concern, and
does not mention any order.
-/

namespace ClusterScaling

/-- Fails with a detail unless a condition holds. -/
def demand (holds : Bool) (detail : String) : Except Fault Unit :=
  if holds then .ok () else .error (.settings detail)

/-- Passes a check on every item of a list, up to the first that fails. -/
def demandAll {α : Type} (check : α → Except Fault Unit) : List α → Except Fault Unit
  | [] => .ok ()
  | a :: as => do check a; demandAll check as

/-- A demand passes exactly if its condition holds. -/
@[simp]
theorem demand_eq_ok {holds : Bool} {detail : String} :
    demand holds detail = .ok () ↔ holds = true := by
  cases holds <;> simp [demand]

/-- Two checks in a row pass exactly if each of them does. -/
@[simp]
theorem check_then_eq_ok {a b : Except Fault Unit} :
    (a >>= fun _ => b) = .ok () ↔ a = .ok () ∧ b = .ok () := by
  cases a with
  | error fault => simp [bind, Except.bind]
  | ok u => simp [bind, Except.bind]

/-- A check of all items passes exactly if it passes on each of them. -/
@[simp]
theorem demandAll_eq_ok {α : Type} {check : α → Except Fault Unit} {as : List α} :
    demandAll check as = .ok () ↔ ∀ a ∈ as, check a = .ok () := by
  induction as with
  | nil => simp [demandAll]
  | cons a as ih => rw [demandAll, check_then_eq_ok, ih, List.forall_mem_cons]

/-- Whether the value of a metric has to be queried. -/
def MetricSpec.needsQuery (m : MetricSpec) : Bool :=
  m.kind == .custom || m.source == .prometheus

/-- A metric has a weight, a query if it needs one, and a name if it is custom. -/
def MetricSpec.check (tier : Tier) (m : MetricSpec) : Except Fault Unit := do
  demand (Target.isUsable m.weight)
    (tier.name ++ ": metric " ++ m.label ++ " has non-positive weight")
  demand (!m.needsQuery || m.query.isSome)
    (tier.name ++ ": metric " ++ m.label ++ " needs custom_query")
  demand (m.kind != .custom || m.name.isSome) (tier.name ++ ": custom metric needs a name")

/-- The bounds of a tier are in order and its metrics make sense. -/
def TierSettings.check (tier : Tier) (t : TierSettings) : Except Fault Unit := do
  demand (t.least ≤ t.most)
    (tier.name ++ ": min_replicas " ++ toString t.least.toNat ++ " exceeds max_replicas " ++
      toString t.most.toNat)
  demandAll (MetricSpec.check tier) t.metrics

/-- The least count of primaries that both the bounds and the quorum accept. -/
def primariesFloor (t : TierSettings) (q : QuorumSettings) : Nat :=
  max t.least.toNat q.minHealthy.toNat

/-- The least odd number from a number on. -/
def oddFrom (n : Nat) : Nat := if n % 2 = 0 then n + 1 else n

/-- The least odd number from a number on is within a bound exactly if any odd number from it on is. -/
theorem oddFrom_le_iff {n m : Nat} : oddFrom n ≤ m ↔ ∃ k, k % 2 = 1 ∧ n ≤ k ∧ k ≤ m := by
  unfold oddFrom
  constructor
  · intro hle
    exact ⟨_, by grind, by grind, hle⟩
  · rintro ⟨k, hodd, hfrom, hto⟩
    grind

/-- Some odd count satisfies both the bounds and the quorum. -/
def QuorumSettings.check (q : QuorumSettings) (t : TierSettings) : Except Fault Unit :=
  let floor := primariesFloor t q
  demand (oddFrom floor ≤ t.most.toNat)
    ("primaries: no odd replica count in [" ++ toString floor ++ ", " ++
      toString t.most.toNat ++ "]")

/-- There are zones, all different, and the preferred ones are among them. -/
def ZoneSettings.check (z : ZoneSettings) : Except Fault Unit := do
  demand (!z.zones.isEmpty) "zones: at least one zone is required"
  demand (decide z.zones.Nodup) "zones: duplicate zone names"
  demandAll (fun p => demand (z.zones.contains p) ("zones: preference names unknown zone " ++ p))
    z.preference
  demand (z.maxSkew != 0) "zones: max_zone_skew must be at least 1"

/-- How the address of an adviser has to start. -/
def adviserScheme : String := "http://"

/-- The adviser can be reached and has time to answer. -/
def AdviserSettings.check (a : AdviserSettings) : Except Fault Unit := do
  demand (adviserScheme.toList.isPrefixOf a.url.toList) ("webhook: unsupported url " ++ a.url)
  demand (!a.timeout.isZero) "webhook: timeout must be positive"

/-- Collection is bounded in width and time. -/
def CollectorSettings.check (c : CollectorSettings) : Except Fault Unit := do
  demand (decide (1 ≤ c.maxConcurrency ∧ c.maxConcurrency ≤ 8))
    "collector: max_concurrency must be within 1..=8"
  demand (decide (Duration.ofSeconds 1 ≤ c.fetchTimeout ∧ c.fetchTimeout ≤ Duration.ofSeconds 30))
    "collector: fetch_timeout must be within 1s..=30s"
  demand (c.failureThreshold != 0) "collector: breaker_failure_threshold must be positive"

/-- The band, the severity and the memory of the decision make sense. A
scale of severity that is no number is not refused. -/
def EngineSettings.check (e : EngineSettings) : Except Fault Unit := do
  demand (0.0 ≤ e.tolerance && e.tolerance < 1.0) "engine: tolerance must be within [0, 1)"
  demand (!(e.severityScale ≤ 0.0)) "engine: severity_scale must be positive"
  demand (e.historyCapacity != 0) "engine: history_capacity must be positive"

/-- Fails with the first demand that cannot be met. -/
def Settings.check (s : Settings) : Except Fault Unit := do
  demandAll (fun t => (s.tiers.get t).check t) Tier.all
  s.quorum.check s.tiers.primaries
  demandAll ZoneSettings.check s.zones.toList
  demandAll AdviserSettings.check s.adviser.toList
  s.collector.check
  s.engine.check

/-- An adviser passes exactly if its address begins as it should and it has time to answer. -/
theorem AdviserSettings.check_eq_ok {a : AdviserSettings} :
    a.check = .ok ()
      ↔ (∃ rest, a.url.toList = adviserScheme.toList ++ rest) ∧ 0 < a.timeout.nanos := by
  have hbegins : adviserScheme.toList.isPrefixOf a.url.toList = true
      ↔ ∃ rest, a.url.toList = adviserScheme.toList ++ rest := by
    rw [List.isPrefixOf_iff_prefix]
    exact ⟨fun ⟨rest, h⟩ => ⟨rest, h.symm⟩, fun ⟨rest, h⟩ => ⟨rest, h.symm⟩⟩
  simp [AdviserSettings.check, Duration.isZero, Nat.pos_iff_ne_zero, ← hbegins]

/-- The collection passes exactly if its width, its time and its circuits are within their bounds. -/
theorem CollectorSettings.check_eq_ok {c : CollectorSettings} :
    c.check = .ok ()
      ↔ (1 ≤ c.maxConcurrency ∧ c.maxConcurrency ≤ 8)
        ∧ (Duration.ofSeconds 1 ≤ c.fetchTimeout ∧ c.fetchTimeout ≤ Duration.ofSeconds 30)
        ∧ c.failureThreshold ≠ 0 := by
  simp [CollectorSettings.check]

/-- Settings pass exactly if each concern passes its own check. -/
theorem Settings.check_eq_ok {s : Settings} :
    s.check = .ok ()
      ↔ (∀ t, (s.tiers.get t).check t = .ok ()) ∧ s.quorum.check s.tiers.primaries = .ok ()
        ∧ (∀ z ∈ s.zones, z.check = .ok ()) ∧ (∀ a ∈ s.adviser, a.check = .ok ())
        ∧ s.collector.check = .ok () ∧ s.engine.check = .ok () := by
  simp [Settings.check]

/-- A tier passes exactly if its bounds are in order and its metrics pass. -/
theorem TierSettings.check_eq_ok {tier : Tier} {t : TierSettings} :
    t.check tier = .ok () ↔ t.least ≤ t.most ∧ ∀ m ∈ t.metrics, m.check tier = .ok () := by
  simp [TierSettings.check]

/-- The quorum passes exactly if the least odd count from the floor on is within the bounds. -/
theorem QuorumSettings.check_eq_ok {q : QuorumSettings} {t : TierSettings} :
    q.check t = .ok () ↔ oddFrom (primariesFloor t q) ≤ t.most.toNat := by
  simp [QuorumSettings.check]

/-- Zones pass exactly if there are some, all different, with the preferred ones among them, and
they may be apart at all. -/
theorem ZoneSettings.check_eq_ok {z : ZoneSettings} :
    z.check = .ok ()
      ↔ z.zones ≠ [] ∧ z.zones.Nodup ∧ (∀ p ∈ z.preference, p ∈ z.zones) ∧ z.maxSkew ≠ 0 := by
  simp [ZoneSettings.check]

/-- The decision passes exactly if its band, its scale and its memory do. -/
theorem EngineSettings.check_eq_ok {e : EngineSettings} :
    e.check = .ok ()
      ↔ (0.0 ≤ e.tolerance && e.tolerance < 1.0) = true ∧ (!(e.severityScale ≤ 0.0)) = true
        ∧ e.historyCapacity ≠ 0 := by
  simp [EngineSettings.check]

/-! ## The same as a proposition -/

/-- A metric makes sense. -/
structure MetricSpec.Valid (m : MetricSpec) : Prop where
  /-- The weight is finite and positive. -/
  weight : m.weight.isFinite = true ∧ 0.0 < m.weight
  /-- A value that is queried has a query. -/
  query : m.kind = .custom ∨ m.source = .prometheus → m.query.isSome
  /-- A custom metric has a name. -/
  name : m.kind = .custom → m.name.isSome

/-- A metric passes exactly if it makes sense. -/
theorem MetricSpec.check_eq_ok_iff_valid {tier : Tier} {m : MetricSpec} :
    m.check tier = .ok () ↔ m.Valid := by
  have hquery : (!m.needsQuery || m.query.isSome) = true
      ↔ (m.kind = .custom ∨ m.source = .prometheus → m.query.isSome) := by
    simp [MetricSpec.needsQuery, Decidable.imp_iff_not_or]
  have hname : (m.kind != .custom || m.name.isSome) = true
      ↔ (m.kind = .custom → m.name.isSome) := by
    simp [Decidable.imp_iff_not_or]
  unfold MetricSpec.check
  rw [check_then_eq_ok, check_then_eq_ok, demand_eq_ok, demand_eq_ok, demand_eq_ok,
    Target.isUsable_iff, hquery, hname]
  exact ⟨fun ⟨hweight, hquery, hname⟩ => ⟨hweight, hquery, hname⟩,
    fun h => ⟨h.weight, h.query, h.name⟩⟩

/-- Settings make sense. -/
structure Settings.Valid (s : Settings) : Prop where
  /-- The bounds of both tiers are in order. -/
  bounds : ∀ t, (s.tiers.get t).least ≤ (s.tiers.get t).most
  /-- The metrics of both tiers make sense. -/
  metrics : ∀ t, ∀ m ∈ (s.tiers.get t).metrics, m.Valid
  /-- Some odd count of primaries is allowed. -/
  quorum : ∃ n, n % 2 = 1 ∧ primariesFloor s.tiers.primaries s.quorum ≤ n ∧
    n ≤ s.tiers.primaries.most.toNat
  /-- Zones are distinct, there is one, and only existing ones are preferred. -/
  zones : ∀ z, s.zones = some z →
    z.zones ≠ [] ∧ z.zones.Nodup ∧ (∀ p ∈ z.preference, p ∈ z.zones) ∧ 1 ≤ z.maxSkew
  /-- The adviser has an address of the right kind and time to answer. -/
  adviser : ∀ a, s.adviser = some a →
    (∃ rest, a.url.toList = adviserScheme.toList ++ rest) ∧ 0 < a.timeout.nanos
  /-- Between one and eight sources are asked at once. -/
  concurrency : 1 ≤ s.collector.maxConcurrency ∧ s.collector.maxConcurrency ≤ 8
  /-- A source has between one and thirty seconds. -/
  fetchTimeout : Duration.ofSeconds 1 ≤ s.collector.fetchTimeout ∧
    s.collector.fetchTimeout ≤ Duration.ofSeconds 30
  /-- A circuit needs at least one failure to open. -/
  failureThreshold : 1 ≤ s.collector.failureThreshold
  /-- The band has a lower edge above zero. -/
  tolerance : 0.0 ≤ s.engine.tolerance ∧ s.engine.tolerance < 1.0
  /-- The scale of severity is not zero or negative. -/
  severityScale : ¬ s.engine.severityScale ≤ 0.0
  /-- At least one move is remembered. -/
  historyCapacity : 1 ≤ s.engine.historyCapacity

end ClusterScaling
