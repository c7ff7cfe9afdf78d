import ClusterScaling.Probe
import ClusterScaling.Proofs.Document.Decoding

/-!
# What sources can report

A query that succeeds reports one finite number for its own field
(`Probe.report_of_query`). A member reports any of five fields, none of
them custom, whichever of them are wanted (`Probe.report_of_member`). So
the values of a custom field come from queries alone, while those of
another field may come from members too.
-/

namespace ClusterScaling

/-! ## Decoding -/

/-- What is decoded from a text is decoded from a document. -/
theorem Json.exists_of_decode {α : Type} {item : Document → Document.Decoded α} {text : String}
    {a : α} (h : Json.decode item text = .ok a) : ∃ d, item d Json.manner = .ok a := by
  unfold Json.decode at h
  split at h
  · cases h
  · next d _ =>
    split at h
    · next a' ha =>
      cases h
      exact ⟨d, ha⟩
    · cases h

namespace Probe

open Document

/-! ## Members -/

/-- A report on the metrics page of a member has no custom field. -/
theorem field_of_memberReport {d : Document} {manner : Manner} {r : Report}
    (h : memberReport d manner = .ok r) {v : Field × Float} (hv : v ∈ r) (label : String) :
    v.1 ≠ .custom label := by
  obtain ⟨record, -, h⟩ := bind_eq_ok.mp h
  obtain ⟨values, hvalues, h⟩ := bind_eq_ok.mp h
  cases h
  obtain ⟨w, hw, hvw⟩ := List.mem_filterMap.mp hv
  obtain ⟨f, hf, hitem⟩ := of_mem_mapM hvalues hw
  obtain ⟨x, -, hitem⟩ := bind_eq_ok.mp hitem
  obtain ⟨y, -, hitem⟩ := bind_eq_ok.mp hitem
  cases hitem
  have hfield : v.1 = f.2 := by
    dsimp only at hvw
    split at hvw
    · split at hvw
      · cases hvw
        rfl
      · cases hvw
    · cases hvw
  have hnone : ∀ f ∈ memberFields, f.2 ≠ .custom label := by simp [memberFields]
  rw [hfield]
  exact hnone f hf

/-! ## Asking -/

variable {net : Http.Network} {limit : Duration} {r : Report}

/-- A source that is asked reports what it makes of the answer. -/
theorem fetch_eq_ok_iff {p : Probe} : p.fetch net limit = .ok r
    ↔ ∃ reply, Http.get net p.url limit = .ok reply ∧ p.ofReply reply = .ok r := by
  constructor
  · intro h
    unfold fetch at h
    dsimp only at h
    split at h
    · cases h
    · next reply hreply =>
      refine ⟨reply, hreply, ?_⟩
      cases hr : p.ofReply reply with
      | error reason =>
        rw [hr] at h
        cases h
      | ok r' =>
        rw [hr] at h
        cases h
        rfl
  · rintro ⟨reply, hreply, hr⟩
    unfold fetch
    rw [hreply]
    dsimp only
    rw [hr]
    rfl

/-- A member has to answer with success, and its report is on the page. -/
theorem ofReply_member {t : Tier} {address : String} {reply : Http.Reply} :
    (member t address).ofReply reply = .ok r
      ↔ reply.isSuccess = true ∧ Json.decode memberReport reply.body = .ok r := by
  unfold ofReply
  cases reply.isSuccess with
  | false => exact ⟨nofun, nofun⟩
  | true =>
    cases Json.decode memberReport reply.body with
    | error cause => exact ⟨nofun, nofun⟩
    | ok r' =>
      constructor
      · intro h
        cases h
        exact ⟨rfl, rfl⟩
      · rintro ⟨-, h⟩
        cases h
        rfl

/-- The report of a query is the value of the answer, for the field of the query. -/
theorem ofReply_query {t : Tier} {base q : String} {field : Field} {reply : Http.Reply} :
    (query t base q field).ofReply reply = .ok r
      ↔ ∃ answer x, Json.decode QueryAnswer.decode reply.body = .ok answer
          ∧ answer.value = .ok x ∧ r = [(field, x)] := by
  unfold ofReply
  cases Json.decode QueryAnswer.decode reply.body with
  | error cause => exact ⟨nofun, fun ⟨_, _, h, _⟩ => nomatch h⟩
  | ok answer =>
    dsimp only
    constructor
    · intro h
      cases hvalue : answer.value with
      | error reason =>
        rw [hvalue] at h
        cases h
      | ok x =>
        rw [hvalue] at h
        exact ⟨answer, x, rfl, hvalue, (Except.ok.inj h).symm⟩
    · rintro ⟨answer', x, hanswer, hvalue, rfl⟩
      cases hanswer
      rw [hvalue]
      rfl

/-- **A member that is asked reports no custom field.** -/
theorem report_of_member {t : Tier} {address : String}
    (h : (member t address).fetch net limit = .ok r) {v : Field × Float} (hv : v ∈ r)
    (label : String) : v.1 ≠ .custom label := by
  obtain ⟨reply, -, hreply⟩ := fetch_eq_ok_iff.mp h
  obtain ⟨d, hd⟩ := Json.exists_of_decode (ofReply_member.mp hreply).2
  exact field_of_memberReport hd hv label

/-- The value of an answer is finite. -/
theorem QueryAnswer.isFinite_value {a : QueryAnswer} {x : Float} (h : a.value = .ok x) :
    x.isFinite = true := by
  unfold value at h
  split at h
  · cases h
  · split at h
    · cases h
    · split at h
      · next y hy =>
        cases h
        exact (Option.filter_eq_some_iff.mp hy).2
      · cases h

/-- **A query reports one finite number for its field.** -/
theorem report_of_query {t : Tier} {base q : String} {field : Field}
    (h : (query t base q field).fetch net limit = .ok r) :
    ∃ x : Float, x.isFinite = true ∧ r = [(field, x)] := by
  obtain ⟨reply, -, hreply⟩ := fetch_eq_ok_iff.mp h
  obtain ⟨answer, x, -, hvalue, rfl⟩ := ofReply_query.mp hreply
  exact ⟨x, QueryAnswer.isFinite_value hvalue, rfl⟩

end Probe

end ClusterScaling
