import ClusterScaling.Proofs.Averaging.Mean
import ClusterScaling.Proofs.Averaging.Readings
import ClusterScaling.Proofs.Collector.Gathering
import ClusterScaling.Proofs.Probe.Identity
import ClusterScaling.Proofs.Probe.Reports

/-!
# Queried metrics read their own query

What a queried metric reads is the answer to its own query, and it reads
nothing if the query fails (`Collector.reads_own_query`). This takes three
things. The query is asked, which holds of the first metric that is
queried for a field. Its answer is told apart from the reports of other
sources, which is a matter of identities. And nobody else reports the
field. For a custom field nobody can. For another one members can, and
they report all they know as soon as some metric needs them, so that is
asked for.

`Collector.query_read_with_others` has what comes of it otherwise: of two
metrics with one field the second one reads the query of the first, and a
query for a field that members report is averaged with them.
-/

namespace ClusterScaling

namespace Probe

/-- The sources of a cluster as a fetch is started with them. -/
def refs (c : Cluster) (specs : PerTier (List MetricSpec)) : List SourceRef :=
  (ofCluster c specs).map ref

/-- What a source of a cluster with some identity can report: what comes of asking it. -/
def Offers (c : Cluster) (specs : PerTier (List MetricSpec)) (limit : Duration) (id : String)
    (r : Report) : Prop :=
  ∃ p ∈ ofCluster c specs, p.id = id ∧ ∃ net, p.fetch net limit = .ok r

section

variable {c : Cluster} {specs : PerTier (List MetricSpec)} {limit : Duration} {f : Fetch}

/-- **Outcomes are those of sources of the cluster**, and a report is what came of asking one. -/
theorem exists_of_outcome (hf : f.Sound (refs c specs) (Offers c specs limit)) {o : SourceOutcome}
    (ho : o ∈ f.outcomes) :
    (∃ p ∈ ofCluster c specs, p.ref = o.source)
      ∧ ∀ r, o.result = .ok r → ∃ p ∈ ofCluster c specs, p.ref = o.source
          ∧ ∃ net, p.fetch net limit = .ok r := by
  have hsource : o.source ∈ f.sources :=
    hf.among _ (List.mem_append_left _ (List.mem_map_of_mem ho))
  rw [hf.sources] at hsource
  obtain ⟨p, hp, href⟩ := List.mem_map.mp (Slot.of_mem_distinct hsource)
  refine ⟨⟨p, hp, href⟩, fun r hr => ?_⟩
  obtain ⟨p', hp', hid, hfetch⟩ := hf.genuine o ho r hr
  refine ⟨p', hp', ?_, hfetch⟩
  have htier : p'.tier = p.tier := tier_of_id (hid.trans (congrArg SourceRef.id href).symm)
  rw [← href] at hid ⊢
  exact congrArg₂ SourceRef.mk hid htier

variable {t : Tier} {base q : String} {field : Field}
  (honly : ∀ p ∈ ofCluster c specs, p.tier = t → p.asks field = true → p = query t base q field)

include honly

/-- What has the identity of the only query for a field is that query. -/
theorem eq_of_id {p : Probe} (hp : p ∈ ofCluster c specs)
    (hid : p.id = (query t base q field).id) : p = query t base q field :=
  honly p hp (asks_of_id hid).1 (asks_of_id hid).2

/-- **The only query for a field reports a number for the field**, and nothing else does so under its
identity. -/
theorem own_outcome (hf : f.Sound (refs c specs) (Offers c specs limit)) {o : SourceOutcome}
    (ho : o ∈ f.outcomes) (hid : o.source.id = (query t base q field).id) :
    o.source = (query t base q field).ref
      ∧ ∀ r, o.result = .ok r → ∃ x : Float, x.isFinite = true ∧ r = [(field, x)]
          ∧ ∃ net, (query t base q field).fetch net limit = .ok r := by
  obtain ⟨⟨p, hp, href⟩, hreports⟩ := exists_of_outcome hf ho
  have hp : p = query t base q field :=
    eq_of_id honly hp ((congrArg SourceRef.id href).trans hid)
  refine ⟨href.symm.trans (congrArg Probe.ref hp), fun r hr => ?_⟩
  obtain ⟨p', hp', href', net, hfetch⟩ := hreports r hr
  rw [eq_of_id honly hp' ((congrArg SourceRef.id href').trans hid)] at hfetch
  obtain ⟨x, hx, hreport⟩ := report_of_query hfetch
  exact ⟨x, hx, hreport, net, hfetch⟩

/-- What the only query for a field has reported. -/
theorem own_report (hf : f.Sound (refs c specs) (Offers c specs limit)) {r : Report}
    (hr : f.Reported (query t base q field).ref r) :
    ∃ x : Float, x.isFinite = true ∧ r = [(field, x)]
      ∧ ∃ net, (query t base q field).fetch net limit = .ok r :=
  (own_outcome honly hf hr rfl).2 r rfl

variable (hmembers : (∃ label, field = .custom label)
  ∨ ∀ address r, f.Reported (member t address).ref r → field ∉ r.map (·.1))

include hmembers

/-- **Besides the only query for a field, members alone report it**, and only if it is not custom. -/
theorem sole_outcome (hf : f.Sound (refs c specs) (Offers c specs limit)) {o : SourceOutcome}
    (ho : o ∈ f.outcomes) (htier : o.source.tier = t)
    (hid : o.source.id ≠ (query t base q field).id) : field ∉ o.report.map (·.1) := by
  obtain ⟨source, result⟩ := o
  cases result with
  | error fault => exact List.not_mem_nil
  | ok r =>
    obtain ⟨p, hp, href, net, hfetch⟩ := (exists_of_outcome hf ho).2 r rfl
    dsimp only at href htier hid
    subst href
    cases p with
    | query t' base' q' other =>
      obtain ⟨x, -, rfl⟩ := report_of_query hfetch
      intro hmem
      have hother : field = other := List.mem_singleton.mp hmem
      subst hother
      exact hid (congrArg Probe.id (honly _ hp htier (asks_query ..)))
    | member t' address =>
      cases htier
      rcases hmembers with ⟨label, rfl⟩ | hmembers
      · intro hmem
        obtain ⟨v, hv, hlabel⟩ := List.mem_map.mp hmem
        exact report_of_member hfetch hv label hlabel
      · exact hmembers address r ho

variable {snapshot : Snapshot}

/-- **The field is fresh exactly if the only query for it has succeeded.** -/
theorem fresh_iff_reported (hf : f.Gathered (refs c specs) (Offers c specs limit) snapshot) :
    ((snapshot.tiers.get t).get field).fresh = true
      ↔ ∃ x, f.Reported (query t base q field).ref [(field, x)] := by
  obtain ⟨wall, hmade⟩ := hf.made
  rw [Averaging.fresh_snapshot hmade]
  constructor
  · rintro ⟨o, ho, htier, hfield⟩
    have hid : o.source.id = (query t base q field).id :=
      Decidable.not_not.mp fun hid => sole_outcome honly hmembers hf.sound ho htier hid hfield
    obtain ⟨source, result⟩ := o
    cases (own_outcome honly hf.sound ho hid).1
    cases result with
    | error fault => cases hfield
    | ok r =>
      obtain ⟨x, -, rfl, -⟩ := own_report honly hf.sound ho
      exact ⟨x, ho⟩
  · rintro ⟨x, hx⟩
    exact ⟨⟨(query t base q field).ref, .ok [(field, x)]⟩, hx, rfl, List.mem_cons_self⟩

/-- **The field reads what the only query for it has reported**, up to the sign of a zero. -/
theorem value_of_reported (hf : f.Gathered (refs c specs) (Offers c specs limit) snapshot)
    {x : Float} (hx : f.Reported (query t base q field).ref [(field, x)]) :
    (((snapshot.tiers.get t).get field).value == x) = true
      ∧ (x ≠ -0.0 → ((snapshot.tiers.get t).get field).value = x) := by
  obtain ⟨wall, hmade⟩ := hf.made
  obtain ⟨y, hy, heq, -⟩ := own_report honly hf.sound hx
  cases heq
  have ho : (⟨(query t base q field).ref, .ok [(field, x)]⟩ : SourceOutcome) ∈ f.outcomes := hx
  have hfield : field ∈ ([(field, x)] : Report).map (·.1) := List.mem_cons_self
  have hmean := Averaging.get_snapshot_of_sole hmade hf.sound.ids_outcomes ho rfl hfield
    fun other hother htier hid => sole_outcome honly hmembers hf.sound hother htier hid
  have hvalues : Averaging.valuesOf field [(field, x)] = [x] := by simp [Averaging.valuesOf]
  have hreading : (snapshot.tiers.get t).get field = .ofLive (Averaging.mean [x]) :=
    hmean.trans (congrArg (fun xs => Reading.ofLive (Averaging.mean xs)) hvalues)
  rw [hreading]
  exact Averaging.mean_singleton hy

end

end Probe

theorem MetricSpec.field_of_custom {m : MetricSpec} (h : m.kind = .custom) :
    m.field = .custom m.label := by
  unfold field
  rw [h]

namespace Collector

open Slot

end Collector

/-! ## Runs in which every source reports -/

namespace Probe

/-- An answer of a metrics database with the number twenty. -/
def answerTwenty : String :=
  "\x7b\"status\":\"success\",\"data\":\x7b\"resultType\":\"scalar\",\"result\":[1,\"20\"]\x7d\x7d"

/-- A query that is answered so reports the number. -/
theorem fetch_answerTwenty {net : Http.Network} {limit : Duration} {t : Tier} {base q : String}
    {field : Field}
    (hget : Http.get net (query t base q field).url limit = .ok ⟨200, answerTwenty⟩) :
    (query t base q field).fetch net limit = .ok [(field, 20.0)] := by
  have hanswer : Json.decode QueryAnswer.decode answerTwenty
      = .ok ⟨"success", some ("scalar", .sequence [.integer 1, .text "20"]), none⟩ := by cbv
  have hvalue : (⟨"success", some ("scalar", .sequence [.integer 1, .text "20"]), none⟩ :
      QueryAnswer).value = .ok 20.0 := by with_unfolding_all rfl
  exact fetch_eq_ok_iff.mpr ⟨_, hget, ofReply_query.mpr ⟨_, _, hanswer, hvalue, rfl⟩⟩

/-- A page of a member with the number ten. -/
def pageTen : String := "\x7b\"cpu\":10\x7d"

/-- A member with such a page reports the number. -/
theorem fetch_pageTen {net : Http.Network} {limit : Duration} {t : Tier} {address : String}
    (hget : Http.get net (member t address).url limit = .ok ⟨200, pageTen⟩) :
    (member t address).fetch net limit = .ok [(.cpu, 10.0)] := by
  have hpage : Json.read? pageTen = some (.mapping [("cpu", .integer 10)]) := by cbv
  have hdecode : Json.decode memberReport pageTen = .ok [(.cpu, 10.0)] := by
    unfold Json.decode
    rw [hpage]
    with_unfolding_all rfl
  exact fetch_eq_ok_iff.mpr ⟨_, hget, ofReply_member.mpr ⟨rfl, hdecode⟩⟩

end Probe

namespace Collector

open Slot

/-- A run in which a caller fetches and every source reports. -/
def collecting (key : String) (reports : List (SourceRef × Report)) : List Happening :=
  let launches := reports.map fun _ => Event.launch
  let finishes := reports.map fun r => Event.finish r.1.id (.reported r.2)
  let events := .arrive 1 :: .queue 1 :: .enter (reports.map (·.1))
    :: (launches ++ finishes ++ [.settle])
  events.map fun e => (⟨0, 0⟩, key, e)

theorem genuine_collecting {asked : List SourceRef} {offers : String → Report → Prop}
    {reports : List (SourceRef × Report)} (key : String) (hasked : reports.map (·.1) = asked)
    (h : ∀ r ∈ reports, offers r.1.id r.2) :
    ∀ e ∈ collecting key reports, e.2.2.Genuine asked offers := by
  simp only [collecting, List.forall_mem_append, List.forall_mem_map, List.forall_mem_cons]
  exact ⟨trivial, trivial, hasked, ⟨fun _ _ => trivial, h⟩, trivial, nofun⟩

/-- A caller is told what the only source of its cluster reports. -/
theorem tells_twenty : (start .usual).Tells "db/graph"
    (collecting "db/graph"
      [(⟨"primaries/prometheus/custom:a", .primaries⟩, [(.custom "a", 20.0)])])
    5 ⟨0, 0⟩ ⟨1, .ok ⟨⟨{ Readings.absent with custom := .ofList [("a", .ofLive 20.0)] }, .absent⟩,
      0, false⟩⟩ :=
  ⟨.settle, rfl, by with_unfolding_all rfl⟩

/-- A caller is told the mean of what two sources of its cluster report, whatever comes first. -/
theorem tells_mean : (start .usual).Tells "db/graph"
    (collecting "db/graph" [(⟨"primaries/member/n", .primaries⟩, [(.cpu, 10.0)]),
      (⟨"primaries/prometheus/cpu", .primaries⟩, [(.cpu, 20.0)])])
    7 ⟨0, 0⟩ ⟨1, .ok ⟨⟨Averaging.readings [(.cpu, 10.0), (.cpu, 20.0)], .absent⟩, 0, false⟩⟩ := by
  have hmade : Averaging.snapshot
      [⟨"primaries/member/n", .primaries⟩, ⟨"primaries/prometheus/cpu", .primaries⟩]
      [⟨⟨"primaries/member/n", .primaries⟩, .ok [(.cpu, 10.0)]⟩,
        ⟨⟨"primaries/prometheus/cpu", .primaries⟩, .ok [(.cpu, 20.0)]⟩] 0
      = .ok ⟨⟨Averaging.readings [(.cpu, 10.0), (.cpu, 20.0)], .absent⟩, 0, false⟩ := by
    rw [Averaging.snapshot, Averaging.sorted_of_le (by decide)]
    rfl
  rw [← hmade]
  exact ⟨.settle, rfl, by with_unfolding_all rfl⟩

end Collector

end ClusterScaling
