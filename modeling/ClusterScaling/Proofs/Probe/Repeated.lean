import ClusterScaling.Proofs.Collector.Gathering
import ClusterScaling.Proofs.Probe.Identity

/-!
# Which sources are listed twice

A fetch asks one source for each identity, the first that has it. That is
harmless as long as whatever is left out is listed already, and an
identity is put together from texts that anybody may choose: an address
may look like a query, and a label like an address.

It is harmless because an identity can be taken apart again. It says which
tier a source reports on and what it reads (`Probe.subject`), and it says
nothing else (`Probe.id_eq_iff`). Within a cluster there is one query for
each field of a tier, so the only sources that share an identity are
members that are listed twice (`Probe.pairwise_ofCluster`), and to leave
out what has an identity that came up before is to leave out repetitions
(`Probe.distinct_ofCluster`).
-/

namespace ClusterScaling

namespace Probe

/-! ## What an identity says, and no more -/

/-- What a source reads on its tier: the page at an address, or the value of a field. -/
def subject : Probe → String ⊕ Field
  | member _ address => .inl address
  | query _ _ _ field => .inr field

theorem asks_iff_subject {p : Probe} {field : Field} :
    p.asks field = true ↔ p.subject = .inr field := by
  cases p with
  | member t address => exact ⟨nofun, nofun⟩
  | query t base q other => simp [asks, subject]

/-- **Two sources have one identity exactly if they read the same on the same tier.** -/
theorem id_eq_iff {p p' : Probe} : p.id = p'.id ↔ p.tier = p'.tier ∧ p.subject = p'.subject := by
  constructor
  · intro h
    refine ⟨tier_of_id h, ?_⟩
    have hsuffix := suffix_of_id h
    cases p' with
    | query t' base' q' field => exact asks_iff_subject.mp (asks_of_id h).2
    | member t' address' =>
      cases p with
      | query t base q field => exact (asks_iff_subject.mp (asks_of_id h.symm).2).symm
      | member t address =>
        have haddress : address = address' := by
          simpa [suffix, ← String.toList_inj] using hsuffix
        rw [haddress]
        rfl
  · rintro ⟨htier, hsubject⟩
    cases p <;> cases p' <;> simp_all [subject, id, tier]

/-- A member that is listed twice. -/
def IsRepeated (p p' : Probe) : Prop := ∃ t address, p = member t address ∧ p' = member t address

theorem IsRepeated.id_eq {p p' : Probe} (h : p.IsRepeated p') : p.id = p'.id := by
  obtain ⟨t, address, rfl, rfl⟩ := h
  rfl

/-! ## Which sources share an identity -/

variable {c : Cluster} {t : Tier} {specs : List MetricSpec} {p p' : Probe}

/-- The page of a member is read if the tier has the member and a metric reads from members. -/
theorem mem_members : p ∈ members c t specs
    ↔ ∃ address ∈ c.members.get t, (∃ m ∈ specs, m.source = .member) ∧ p = member t address := by
  have hany : (specs.any fun m => m.source == .member) = true
      ↔ ∃ m ∈ specs, m.source = .member := by
    simp only [List.any_eq_true, beq_iff_eq]
  unfold members
  split
  · next hreads =>
    rw [List.mem_map]
    exact exists_congr fun address => and_congr_right fun _ =>
      ⟨fun h => ⟨hany.mp hreads, h.symm⟩, fun h => h.2.symm⟩
  · next hreads => exact ⟨nofun, fun ⟨_, _, h, _⟩ => absurd (hany.mpr h) hreads⟩

/-- What is queried for metrics is a field of the tier. -/
theorem exists_asks (h : p ∈ specs.filterMap (ofSpec? c t)) :
    p.tier = t ∧ ∃ field, p.asks field = true := by
  obtain ⟨m, -, hm⟩ := List.mem_filterMap.mp h
  obtain ⟨-, base, q, -, -, rfl⟩ := ofSpec?_eq_some_iff.mp hm
  exact ⟨rfl, m.field, asks_query ..⟩

/-- **No field is queried twice.** -/
theorem pairwise_distinctFields {ps : List Probe}
    (hps : ∀ p ∈ ps, ∃ field, p.asks field = true) (seen : List Field) :
    (distinctFields seen ps).Pairwise fun p p' => p.subject ≠ p'.subject := by
  induction ps generalizing seen with
  | nil => exact .nil
  | cons p ps ih =>
    have hrest : ∀ p ∈ ps, ∃ field, p.asks field = true := (List.forall_mem_cons.mp hps).2
    cases p with
    | member t address =>
      obtain ⟨field, hasks⟩ := hps _ List.mem_cons_self
      cases hasks
    | query t base q field =>
      rw [distinctFields]
      split
      · exact ih hrest seen
      · refine List.pairwise_cons.mpr ⟨fun p' hp' hsubject => ?_, ih hrest _⟩
        -- the queries that follow are for fields not seen before, and this one is seen
        have hasks : p'.asks field = true := asks_iff_subject.mpr hsubject.symm
        exact ((mem_distinctFields hasks _ _).mp hp').1 List.mem_cons_self

/-- Sources of a tier that share an identity are members listed twice. -/
theorem pairwise_resolve (c : Cluster) (t : Tier) (specs : List MetricSpec) :
    (resolve c t specs).Pairwise fun p p' => p.id = p'.id → p.IsRepeated p' := by
  have hfields : ∀ p ∈ specs.filterMap (ofSpec? c t), ∃ field, p.asks field = true :=
    fun _ hp => (exists_asks hp).2
  have hqueries := pairwise_distinctFields hfields []
  refine List.pairwise_append.mpr ⟨?_, hqueries.imp fun hne h => ?_, fun p hp p' hp' h => ?_⟩
  · refine List.pairwise_of_forall_mem_list fun p hp p' hp' h => ?_
    obtain ⟨address, -, -, rfl⟩ := mem_members.mp hp
    obtain ⟨address', -, -, rfl⟩ := mem_members.mp hp'
    obtain rfl : address = address' := Sum.inl.inj (id_eq_iff.mp h).2
    exact ⟨t, address, rfl, rfl⟩
  · exact absurd (id_eq_iff.mp h).2 hne
  · obtain ⟨address, -, -, rfl⟩ := mem_members.mp hp
    obtain ⟨-, field, hasks⟩ := exists_asks (of_mem_distinctFields hp')
    cases (id_eq_iff.mp h).2.trans (asks_iff_subject.mp hasks)

variable {specs : PerTier (List MetricSpec)}

/-- **Sources of a cluster that share an identity are members listed twice.** -/
theorem pairwise_ofCluster (c : Cluster) (specs : PerTier (List MetricSpec)) :
    (ofCluster c specs).Pairwise fun p p' => p.id = p'.id ↔ p.IsRepeated p' := by
  have hpairs : (ofCluster c specs).Pairwise fun p p' => p.id = p'.id → p.IsRepeated p' := by
    refine List.pairwise_flatMap.mpr ⟨fun t _ => pairwise_resolve c t _, ?_⟩
    have htiers : Tier.all.Pairwise (· ≠ ·) := by decide
    refine htiers.imp fun hne p hp p' hp' h => ?_
    rw [← tier_of_mem_resolve hp, ← tier_of_mem_resolve hp'] at hne
    exact absurd (tier_of_id h) hne
  exact hpairs.imp fun h => ⟨h, IsRepeated.id_eq⟩

/-- A source of a cluster is known by its identity. -/
theorem eq_of_id_of_mem (hp : p ∈ ofCluster c specs) (hp' : p' ∈ ofCluster c specs)
    (h : p.id = p'.id) : p = p' := by
  have hpairs : (ofCluster c specs).Pairwise fun p p' => p.id = p'.id → p = p' :=
    (pairwise_ofCluster c specs).imp fun hiff h => by
      obtain ⟨t, address, rfl, rfl⟩ := hiff.mp h
      rfl
  exact hpairs.forall_of_forall_of_flip (fun _ _ _ => rfl)
    (hpairs.imp fun heq hid => (heq hid.symm).symm) hp hp' h

/-! ## Leaving out repetitions -/

/-- If sources are known by their identities, to leave out those whose identity came up before is to
leave out repetitions. -/
theorem distinct_map_ref {ps : List Probe} (hps : ∀ p ∈ ps, ∀ p' ∈ ps, p.id = p'.id → p = p')
    (seen : List String) : Slot.distinct seen (ps.map ref)
      = (ps.filter fun p => p.id ∉ seen).eraseDups.map ref := by
  induction ps generalizing seen with
  | nil => rfl
  | cons p ps ih =>
    have ih := ih fun p hp p' hp' =>
      hps p (List.mem_cons_of_mem _ hp) p' (List.mem_cons_of_mem _ hp')
    have hid : p.ref.id = p.id := rfl
    rw [List.map_cons, Slot.distinct, hid]
    by_cases hseen : p.id ∈ seen
    · rw [if_pos hseen, List.filter_cons_of_neg (by simpa using hseen), ih]
    · -- to have the identity of the source is to be the source
      have hsame : ∀ p' ∈ ps, (decide (p'.id ∉ p.id :: seen))
          = ((!p' == p) && decide (p'.id ∉ seen)) := by
        intro p' hp'
        have hiff : p'.id = p.id ↔ p' = p :=
          ⟨hps p' (List.mem_cons_of_mem _ hp') p List.mem_cons_self, congrArg id⟩
        rw [Bool.eq_iff_iff]
        simp [List.mem_cons, not_or, hiff]
      rw [if_neg hseen, List.filter_cons_of_pos (by simpa using hseen), List.eraseDups_cons,
        List.map_cons, ih, List.filter_filter, List.filter_congr hsame]

/-- **A fetch lists the sources of a cluster without repetitions.** -/
theorem distinct_ofCluster (c : Cluster) (specs : PerTier (List MetricSpec)) :
    Slot.distinct [] ((ofCluster c specs).map ref) = (ofCluster c specs).eraseDups.map ref := by
  rw [distinct_map_ref fun p hp p' hp' => eq_of_id_of_mem hp hp']
  have hall : ∀ p ∈ ofCluster c specs, decide (p.id ∉ ([] : List String)) = true := fun _ _ => rfl
  rw [List.filter_eq_self.mpr hall]

/-- What is left without repetitions has none. -/
theorem nodup_sources (c : Cluster) (specs : PerTier (List MetricSpec)) :
    (ofCluster c specs).eraseDups.Nodup := by
  have hids := (Slot.ids_distinct [] ((ofCluster c specs).map ref)).1
  rw [distinct_ofCluster, List.map_map] at hids
  exact List.Pairwise.of_map _ (fun _ _ hne heq => hne (congrArg _ heq)) hids

/-! ## Which sources a cluster has -/

/-- A member is read if its tier has it and a metric of the tier reads from members. -/
theorem member_mem_ofCluster {address : String} : member t address ∈ ofCluster c specs
    ↔ address ∈ c.members.get t ∧ ∃ m ∈ specs.get t, m.source = .member := by
  rw [mem_ofCluster, resolve, List.mem_append, mem_members]
  constructor
  · rintro (⟨address', haddress, hreads, heq⟩ | h)
    · cases heq
      exact ⟨haddress, hreads⟩
    · obtain ⟨-, field, hasks⟩ := exists_asks (of_mem_distinctFields h)
      cases hasks
  · rintro ⟨haddress, hreads⟩
    exact .inl ⟨address, haddress, hreads, rfl⟩

/-- **A field is queried if a metric of the tier that reads it is**, and there is a database. -/
theorem exists_asks_ofCluster {field : Field} :
    (∃ p ∈ ofCluster c specs, p.tier = t ∧ p.asks field = true)
      ↔ c.prometheusUrl.isSome = true ∧ ∃ m ∈ specs.get t,
          m.source = .prometheus ∧ m.query.isSome = true ∧ m.field = field := by
  constructor
  · rintro ⟨p, hp, rfl, hasks⟩
    have hfind := (mem_resolve hasks).mp (mem_ofCluster.mp hp)
    obtain ⟨m, hm, hspec⟩ := List.mem_filterMap.mp (List.mem_of_find?_eq_some hfind)
    obtain ⟨hsource, base, q, hurl, hquery, heq⟩ := ofSpec?_eq_some_iff.mp hspec
    rw [heq] at hasks
    exact ⟨hurl ▸ rfl, m, hm, hsource, hquery ▸ rfl, of_decide_eq_true hasks⟩
  · rintro ⟨hurl, m, hm, hsource, hquery, rfl⟩
    obtain ⟨base, hurl⟩ := Option.isSome_iff_exists.mp hurl
    obtain ⟨q, hquery⟩ := Option.isSome_iff_exists.mp hquery
    have hspec : query t base q m.field ∈ (specs.get t).filterMap (ofSpec? c t) :=
      List.mem_filterMap.mpr ⟨m, hm, ofSpec?_eq_some_iff.mpr ⟨hsource, base, q, hurl, hquery, rfl⟩⟩
    -- it need not be this query, but then an earlier metric has one for the field
    obtain ⟨p, hfind⟩ := Option.isSome_iff_exists.mp
      (List.find?_isSome.mpr ⟨_, hspec, asks_query t base q m.field⟩)
    have hasks := List.find?_some hfind
    have htier := (exists_asks (List.mem_of_find?_eq_some hfind)).1
    refine ⟨p, mem_ofCluster.mpr ?_, htier, hasks⟩
    rw [htier]
    exact (mem_resolve hasks).mpr hfind

/-- **Among sources that share an identity one is left**, if there is any. -/
theorem countP_eraseDups {holds : Probe → Bool} (hsame : ∀ p ∈ ofCluster c specs,
    ∀ p' ∈ ofCluster c specs, holds p = true → holds p' = true → p.id = p'.id) :
    (ofCluster c specs).eraseDups.countP holds
      = if ∃ p ∈ ofCluster c specs, holds p = true then 1 else 0 := by
  split
  · next hexists =>
    obtain ⟨p, hp, hholds⟩ := hexists
    have honly : ∀ p' ∈ (ofCluster c specs).eraseDups, holds p' = true ↔ (p' == p) = true := by
      intro p' hp'
      rw [List.mem_eraseDups] at hp'
      rw [beq_iff_eq]
      constructor
      · exact fun h => eq_of_id_of_mem hp' hp (hsame p' hp' p hp h hholds)
      · rintro rfl
        exact hholds
    rw [List.countP_congr honly]
    exact (nodup_sources c specs).count.trans (if_pos (List.mem_eraseDups.mpr hp))
  · next hnone =>
    exact List.countP_eq_zero.mpr fun p hp hholds => hnone ⟨p, List.mem_eraseDups.mp hp, hholds⟩

/-- **Only members are listed twice, and a fetch leaves out nothing else.** Whatever the members of a
cluster, its database and the metrics of both tiers: two of its sources share an identity exactly if
they are one member of one tier, listed twice. So a fetch has every source, as the only one with its
identity: one for each address of a tier that has a metric which reads from members, and one for each
field of a tier that is queried. -/
theorem only_members_repeat (c : Cluster) (specs : PerTier (List MetricSpec)) (s : Slot)
    (call : Nat) :
    let sources := ofCluster c specs
    let kept := sources.eraseDups
    sources.Pairwise (fun p p' => p.id = p'.id
        ↔ ∃ t address, p = member t address ∧ p' = member t address)
      ∧ (s.startFetch call (sources.map ref)).fetch.map Fetch.sources = some (kept.map ref)
      ∧ (∀ p ∈ sources, p ∈ kept ∧ kept.countP (fun p' => p'.id = p.id) = 1)
      ∧ (∀ t address, kept.countP (fun p => p = member t address)
          = if address ∈ c.members.get t ∧ ∃ m ∈ specs.get t, m.source = .member then 1 else 0)
      ∧ ∀ t field, kept.countP (fun p => p.tier = t ∧ p.asks field = true)
          = if c.prometheusUrl.isSome = true ∧ ∃ m ∈ specs.get t,
              m.source = .prometheus ∧ m.query.isSome = true ∧ m.field = field
            then 1 else 0 := by
  intro sources kept
  refine ⟨pairwise_ofCluster c specs, congrArg some (distinct_ofCluster c specs), fun p hp => ?_,
    fun t address => ?_, fun t field => ?_⟩
  · have hone : kept.countP (fun p' => p'.id = p.id) = _ :=
      countP_eraseDups fun p₁ _ p₂ _ h₁ h₂ => by
        rw [of_decide_eq_true h₁, of_decide_eq_true h₂]
    exact ⟨List.mem_eraseDups.mpr hp, hone.trans (if_pos ⟨p, hp, decide_eq_true rfl⟩)⟩
  · have hone : kept.countP (fun p => p = member t address) = _ :=
      countP_eraseDups fun p₁ _ p₂ _ h₁ h₂ => by
        rw [of_decide_eq_true h₁, of_decide_eq_true h₂]
    refine hone.trans (if_congr ?_ rfl rfl)
    simp only [decide_eq_true_eq, exists_eq_right, member_mem_ofCluster]
  · have hone : kept.countP (fun p => p.tier = t ∧ p.asks field = true) = _ :=
      countP_eraseDups fun p₁ _ p₂ _ h₁ h₂ => by
        obtain ⟨htier, hasks⟩ := of_decide_eq_true h₁
        obtain ⟨htier', hasks'⟩ := of_decide_eq_true h₂
        rw [asks_iff_subject] at hasks hasks'
        exact id_eq_iff.mpr ⟨htier.trans htier'.symm, hasks.trans hasks'.symm⟩
    refine hone.trans (if_congr ?_ rfl rfl)
    simp only [decide_eq_true_eq]
    exact exists_asks_ofCluster

/-- A member that is listed twice is asked once, beside one whose address looks like a query. -/
theorem only_members_repeat_lookalike :
    let c : Cluster := ⟨"db", "graph", ⟨["n:1", "prometheus/cpu", "n:1"], ["n:1"]⟩, some "http://m"⟩
    let specs : PerTier (List MetricSpec) := ⟨[.ofKind .memory "70",
      ⟨.cpu, "70", 1.0, none, some "up", some .prometheus⟩], [.ofKind .cpu "70"]⟩
    let twice := member .primaries "n:1"
    twice ∈ ofCluster c specs
      ∧ (ofCluster c specs).eraseDups.countP (fun p => p.id = twice.id) = 1
      ∧ (ofCluster c specs).countP (fun p => p.id = twice.id) = 2
      ∧ (ofCluster c specs).eraseDups.length = 4 := by
  intro c specs twice
  have hmem : twice ∈ ofCluster c specs := by decide
  exact ⟨hmem, ((only_members_repeat c specs .empty 0).2.2.1 twice hmem).2, by decide, by decide⟩

end Probe

end ClusterScaling
