import ClusterScaling.Probe

/-!
# Which source is which

What becomes of a fetch is kept under the identities of the sources, and
an identity is a text. It says enough: which tier the source reports on,
whether it is a query, and for which field (`Probe.tier_of_id`,
`Probe.asks_of_id`). No name of a field is the beginning of a custom
one, and a custom label is kept whole.

Within a cluster there is one query for each field of a tier, so what has
the identity of a query is that query. Of several metrics that read one
field it is the query of the first one (`Probe.only_asks`), and those of
the others are never asked.
-/

namespace ClusterScaling

/-- **The name of a field names no other.** -/
theorem Field.eq_of_name {f g : Field} (h : f.name = g.name) : f = g := by
  cases f <;> cases g <;> simp [name, ← String.toList_inj] at h ⊢
  -- only two custom fields are left
  exact h

namespace Probe

/-! ## What an identity says -/

/-- What stands behind the tier in the identity of a source. -/
def suffix : Probe → String
  | member _ address => "member/" ++ address
  | query _ _ _ field => "prometheus/" ++ field.name

theorem toList_id (p : Probe) : p.id.toList = p.tier.name.toList ++ '/' :: p.suffix.toList := by
  cases p <;> simp [id, tier, suffix]

/-- **An identity belongs to one tier.** -/
theorem tier_of_id {p p' : Probe} (h : p.id = p'.id) : p.tier = p'.tier := by
  have hlist : p.tier.name.toList ++ '/' :: p.suffix.toList
      = p'.tier.name.toList ++ '/' :: p'.suffix.toList := by
    rw [← toList_id, ← toList_id, h]
  cases hp : p.tier <;> cases hp' : p'.tier <;> simp [hp, hp', Tier.name] at hlist ⊢

theorem suffix_of_id {p p' : Probe} (h : p.id = p'.id) : p.suffix = p'.suffix := by
  have hlist : p.tier.name.toList ++ '/' :: p.suffix.toList
      = p.tier.name.toList ++ '/' :: p'.suffix.toList := by
    rw [← toList_id, tier_of_id h, ← toList_id, h]
  exact String.toList_inj.mp (List.cons.inj (List.append_cancel_left hlist)).2

/-- Whether a source is a query for a field. -/
def asks (field : Field) : Probe → Bool
  | member _ _ => false
  | query _ _ _ other => other = field

@[simp]
theorem asks_query (t : Tier) (base q : String) (field : Field) :
    (query t base q field).asks field = true := decide_eq_true rfl

/-- **The identity of a query belongs to queries for the same field only.** -/
theorem asks_of_id {p : Probe} {t : Tier} {base q : String} {field : Field}
    (h : p.id = (query t base q field).id) : p.tier = t ∧ p.asks field = true := by
  have hsuffix := suffix_of_id h
  refine ⟨tier_of_id h, ?_⟩
  cases p with
  | member t' address => simp [suffix, ← String.toList_inj] at hsuffix
  | query t' base' q' other =>
    have hname : other.name = field.name := by
      simpa [suffix, ← String.toList_inj] using hsuffix
    exact decide_eq_true (Field.eq_of_name hname)

/-! ## Which queries there are -/

theorem distinctFields_member (seen : List Field) (t : Tier) (address : String) (ps : List Probe) :
    distinctFields seen (member t address :: ps) = member t address :: distinctFields seen ps := rfl

/-- **There is a query for each field, the first one**, unless the field was seen before. -/
theorem mem_distinctFields {p : Probe} {field : Field} (hp : p.asks field = true)
    (seen : List Field) (ps : List Probe) :
    p ∈ distinctFields seen ps ↔ field ∉ seen ∧ ps.find? (asks field) = some p := by
  induction ps generalizing seen with
  | nil => exact ⟨nofun, fun h => nomatch h.2⟩
  | cons p' ps ih =>
    cases p' with
    | member t address =>
      have hne : p ≠ member t address := fun heq => by
        rw [heq] at hp
        cases hp
      rw [distinctFields_member, List.mem_cons, or_iff_right hne, ih, List.find?_cons_of_neg]
      exact Bool.false_ne_true
    | query t base q other =>
      by_cases heq : other = field
      · -- the query that stands first is for the field
        subst heq
        have hfind : (query t base q other :: ps).find? (asks other) = some (query t base q other) :=
          List.find?_cons_of_pos (asks_query ..)
        rw [distinctFields, hfind]
        split
        · next hseen =>
          rw [ih]
          exact ⟨fun h => absurd hseen h.1, fun h => absurd hseen h.1⟩
        · next hseen =>
          rw [List.mem_cons, ih, Option.some.injEq]
          constructor
          · rintro (rfl | h)
            · exact ⟨hseen, rfl⟩
            · exact absurd List.mem_cons_self h.1
          · rintro ⟨-, rfl⟩
            exact .inl rfl
      · -- it is for another field, which makes no difference
        have hne : p ≠ query t base q other := fun h => by
          rw [h] at hp
          exact heq (of_decide_eq_true hp)
        have hfind : (query t base q other :: ps).find? (asks field) = ps.find? (asks field) :=
          List.find?_cons_of_neg fun h => heq (of_decide_eq_true h)
        rw [distinctFields, hfind]
        split
        · exact ih seen
        · rw [List.mem_cons, or_iff_right hne, ih, List.mem_cons, not_or]
          exact and_congr_left fun _ => and_iff_right fun h => heq h.symm

theorem of_mem_distinctFields {p : Probe} {seen : List Field} {ps : List Probe}
    (h : p ∈ distinctFields seen ps) : p ∈ ps := by
  induction ps generalizing seen with
  | nil => cases h
  | cons p' ps ih =>
    cases p' with
    | member t address =>
      rw [distinctFields_member, List.mem_cons] at h
      exact List.mem_cons.mpr (h.imp_right ih)
    | query t base q other =>
      rw [distinctFields] at h
      split at h
      · exact List.mem_cons_of_mem _ (ih h)
      · exact List.mem_cons.mpr ((List.mem_cons.mp h).imp_right ih)

variable {c : Cluster} {t : Tier} {specs : List MetricSpec} {p : Probe}

/-- The query of a metric is to the metrics database of the cluster. -/
theorem ofSpec?_eq_some_iff {m : MetricSpec} : ofSpec? c t m = some p
    ↔ m.source = .prometheus ∧ ∃ base q, c.prometheusUrl = some base ∧ m.query = some q
        ∧ p = query t base q m.field := by
  unfold ofSpec?
  split
  · next base q hsource hurl hquery =>
    constructor
    · intro h
      exact ⟨hsource, base, q, hurl, hquery, (Option.some.inj h).symm⟩
    · rintro ⟨-, base', q', hurl', hquery', rfl⟩
      cases hurl.symm.trans hurl'
      cases hquery.symm.trans hquery'
      rfl
  · next hnot =>
    refine ⟨nofun, ?_⟩
    rintro ⟨hsource, base, q, hurl, hquery, -⟩
    exact absurd hquery (hnot base q hsource hurl)

/-- The sources of a tier report on it. -/
theorem tier_of_mem_resolve (h : p ∈ resolve c t specs) : p.tier = t := by
  rcases List.mem_append.mp h with h | h
  · unfold members at h
    split at h
    · obtain ⟨address, -, rfl⟩ := List.mem_map.mp h
      rfl
    · cases h
  · obtain ⟨m, -, hm⟩ := List.mem_filterMap.mp (of_mem_distinctFields h)
    obtain ⟨-, base, q, -, -, rfl⟩ := ofSpec?_eq_some_iff.mp hm
    rfl

/-- A source of a cluster is one of its tier. -/
theorem mem_ofCluster {specs : PerTier (List MetricSpec)} :
    p ∈ ofCluster c specs ↔ p ∈ resolve c p.tier (specs.get p.tier) := by
  unfold ofCluster
  rw [List.mem_flatMap]
  constructor
  · rintro ⟨t, -, h⟩
    cases tier_of_mem_resolve h
    exact h
  · intro h
    exact ⟨p.tier, Tier.mem_all _, h⟩

/-- The queries of a tier are the first ones for their fields. -/
theorem mem_resolve {field : Field} (hp : p.asks field = true) :
    p ∈ resolve c t specs ↔ (specs.filterMap (ofSpec? c t)).find? (asks field) = some p := by
  have hmember : p ∉ members c t specs := by
    unfold members
    split
    · intro h
      obtain ⟨address, -, rfl⟩ := List.mem_map.mp h
      cases hp
    · nofun
  rw [resolve, List.mem_append, or_iff_right hmember, mem_distinctFields hp]
  exact and_iff_right nofun

/-- Of the queries of a tier for a field, the first one is found. -/
theorem find?_ofSpec? {before after : List MetricSpec} {m : MetricSpec}
    (hm : ofSpec? c t m = some p) (hfirst : ∀ other ∈ before, other.source = .prometheus →
      other.query.isSome = true → other.field ≠ m.field) :
    ((before ++ m :: after).filterMap (ofSpec? c t)).find? (asks m.field) = some p := by
  obtain ⟨-, base, q, -, -, rfl⟩ := ofSpec?_eq_some_iff.mp hm
  have hnone : (before.filterMap (ofSpec? c t)).find? (asks m.field) = none := by
    refine List.find?_eq_none.mpr fun p hp hasks => ?_
    obtain ⟨other, hother, hp⟩ := List.mem_filterMap.mp hp
    obtain ⟨hsource, base, q, -, hquery, rfl⟩ := ofSpec?_eq_some_iff.mp hp
    exact hfirst other hother hsource (hquery ▸ rfl) (of_decide_eq_true hasks)
  rw [List.filterMap_append, List.find?_append, hnone, List.filterMap_cons_some hm]
  exact List.find?_cons_of_pos (asks_query ..)

/-- **The first metric that is queried for a field has the query for the field**, and the cluster has
no other one for it on the tier. -/
theorem only_asks {specs : PerTier (List MetricSpec)} {before after : List MetricSpec}
    {m : MetricSpec} (hm : ofSpec? c t m = some p) (hspecs : specs.get t = before ++ m :: after)
    (hfirst : ∀ other ∈ before, other.source = .prometheus → other.query.isSome = true →
      other.field ≠ m.field) :
    p ∈ ofCluster c specs
      ∧ ∀ p' ∈ ofCluster c specs, p'.tier = t → p'.asks m.field = true → p' = p := by
  have hfind : ((specs.get t).filterMap (ofSpec? c t)).find? (asks m.field) = some p := by
    rw [hspecs]
    exact find?_ofSpec? hm hfirst
  obtain ⟨-, base, q, -, -, rfl⟩ := ofSpec?_eq_some_iff.mp hm
  refine ⟨mem_ofCluster.mpr ((mem_resolve (asks_query ..)).mpr hfind), ?_⟩
  rintro p' hp' rfl hasks
  exact Option.some.inj (((mem_resolve hasks).mp (mem_ofCluster.mp hp')).symm.trans hfind)

end Probe

end ClusterScaling
