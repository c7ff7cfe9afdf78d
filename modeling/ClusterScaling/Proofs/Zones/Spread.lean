import ClusterScaling.Settings.Validity
import ClusterScaling.Zones

/-!
# A plan spreads its total evenly

Handing out replicas one at a time to the first of the emptiest zones
keeps the counts in one shape: as many as possible have the quotient of
the total by the number of zones, and the first of them, as many as the
remainder says, have one more (`evenly`). Serving one more replica moves
the line between the two groups by one place, and when the line has come
to the end all counts are equal again and it starts over.

So the counts of a plan are known in closed form. The floor that every
zone gets first makes no difference: equal counts are of that shape as
well, whatever they are equal to, and a floor for which there are too few
replicas is lowered before anything is handed out. In particular the
fullest and the emptiest zone are never more than one apart.
-/

namespace ClusterScaling

namespace ZoneSettings

/-- A total spread evenly over places, the first of which may have one more than the others. -/
def evenly (places total : Nat) : List Nat :=
  List.replicate (total % places) (total / places + 1)
    ++ List.replicate (places - total % places) (total / places)

variable {places total : Nat}

/-- With one more, the remainder grows by one, or the last place is served and a new round
begins. -/
theorem succ_div_mod (hplaces : 0 < places) (total : Nat) :
    (total % places + 1 = places
        ∧ (total + 1) / places = total / places + 1 ∧ (total + 1) % places = 0)
      ∨ (total % places + 1 < places
        ∧ (total + 1) / places = total / places ∧ (total + 1) % places = total % places + 1) := by
  have hdivided := Nat.mod_add_div total places
  have hlt := Nat.mod_lt total hplaces
  by_cases hlast : total % places + 1 = places
  · exact .inl ⟨hlast, (Nat.div_mod_unique hplaces).mpr ⟨by rw [Nat.mul_succ]; omega, hplaces⟩⟩
  · exact .inr ⟨by omega, (Nat.div_mod_unique hplaces).mpr ⟨by omega, by omega⟩⟩

/-- Every place has its count. -/
theorem length_evenly (hplaces : 0 < places) (total : Nat) :
    (evenly places total).length = places := by
  have hlt := Nat.mod_lt total hplaces
  rw [evenly, List.length_append, List.length_replicate, List.length_replicate]
  omega

/-- A count is the quotient, or one more. -/
theorem mem_evenly {c : Nat} (hc : c ∈ evenly places total) :
    total / places ≤ c ∧ c ≤ total / places + 1 := by
  rcases List.mem_append.mp hc with hc | hc
  · rw [(List.mem_replicate.mp hc).2]
    exact ⟨Nat.le_succ _, Nat.le_refl _⟩
  · rw [(List.mem_replicate.mp hc).2]
    exact ⟨Nat.le_refl _, Nat.le_succ _⟩

/-- No count is greater than the total. -/
theorem le_of_mem_evenly {c : Nat} (hplaces : 0 < places) (hc : c ∈ evenly places total) :
    c ≤ total := by
  rcases List.mem_append.mp hc with hc | hc
  · obtain ⟨hrest, rfl⟩ := List.mem_replicate.mp hc
    calc total / places + 1
        ≤ places * (total / places) + total % places :=
          Nat.add_le_add (Nat.le_mul_of_pos_left _ hplaces) (Nat.pos_of_ne_zero hrest)
      _ = total := Nat.div_add_mod total places
  · rw [(List.mem_replicate.mp hc).2]
    exact Nat.div_le_self total places

/-- Equal counts are spread evenly. -/
theorem replicate_eq_evenly (hplaces : 0 < places) (share : Nat) :
    List.replicate places share = evenly places (share * places) := by
  rw [evenly, Nat.mul_mod_left, Nat.mul_div_cancel share hplaces]
  rfl

/-- **Nothing is lost.** -/
theorem sum_evenly (hplaces : 0 < places) (total : Nat) :
    (evenly places total).foldr (· + ·) 0 = total := by
  have hlt := Nat.mod_lt total hplaces
  rw [← List.sum_eq_foldr, evenly, List.sum_append_nat, List.sum_replicate_nat, List.sum_replicate_nat]
  calc total % places * (total / places + 1) + (places - total % places) * (total / places)
      = (total % places + (places - total % places)) * (total / places) + total % places := by
        rw [Nat.mul_succ, Nat.add_mul, Nat.add_right_comm]
    _ = places * (total / places) + total % places := by
        rw [Nat.add_sub_cancel' (Nat.le_of_lt hlt)]
    _ = total := Nat.div_add_mod total places

/-- The first least count is the one behind all greater ones. -/
theorem go_replicate (high : Nat) {low : Nat} (hlt : low < high) (n : Nat) (rest : List Nat) :
    addToLeast.go low (List.replicate n high ++ low :: rest)
      = List.replicate n high ++ (low + 1) :: rest := by
  induction n with
  | zero => exact if_pos rfl
  | succ n ih =>
    rw [List.replicate_succ, List.cons_append, addToLeast.go, if_neg (Nat.ne_of_gt hlt), ih]
    rfl

/-- **One more replica moves the line between the fuller and the emptier places by one.** -/
theorem addToLeast_evenly (hplaces : 0 < places) (total : Nat) :
    addToLeast (evenly places total) = evenly places (total + 1) := by
  obtain ⟨rest, hrest⟩ : ∃ rest, places - total % places = rest + 1 :=
    ⟨places - total % places - 1, by have := Nat.mod_lt total hplaces; omega⟩
  have hshape : evenly places total = List.replicate (total % places) (total / places + 1)
      ++ total / places :: List.replicate rest (total / places) := by
    rw [evenly, hrest, List.replicate_succ]
  have hleast : (evenly places total).min? = some (total / places) := by
    refine List.min?_eq_some_iff.mpr ⟨?_, fun c hc => (mem_evenly hc).1⟩
    rw [hshape]
    exact List.mem_append_right _ List.mem_cons_self
  have hstep : addToLeast (evenly places total)
      = List.replicate (total % places + 1) (total / places + 1)
        ++ List.replicate rest (total / places) := by
    rw [addToLeast, hleast]
    dsimp only
    rw [hshape, go_replicate _ (Nat.lt_succ_self _), List.replicate_succ', List.append_assoc]
    rfl
  rw [hstep, evenly]
  rcases succ_div_mod hplaces total with ⟨hlast, hdiv, hmod⟩ | ⟨hmore, hdiv, hmod⟩
  · -- the line has come to the end, and all places are filled equally
    have hnone : rest = 0 := by omega
    rw [hdiv, hmod, hnone, hlast]
    exact List.append_nil _
  · rw [hdiv, hmod, show places - (total % places + 1) = rest by omega]

/-- Handing out replicas to evenly filled places keeps them evenly filled. -/
theorem handOut_evenly (hplaces : 0 < places) (n total : Nat) :
    handOut n (evenly places total) = evenly places (total + n) := by
  induction n generalizing total with
  | zero => rfl
  | succ n ih => rw [handOut, addToLeast_evenly hplaces, ih, Nat.add_right_comm, Nat.add_assoc]

/-- Whether it can be told that a total falls short of the floors of all zones. What these come to
is reckoned up to the greatest count, so it cannot be told only if they come to more and the total
is that count. -/
def Reckons (z : ZoneSettings) (places total : Nat) : Prop :=
  total < UInt32.size - 1 ∨ z.floor.toNat * places < UInt32.size

/-- What can be told of a total is right. -/
theorem lt_leastTotal_iff {z : ZoneSettings} (hfits : z.Reckons places total) :
    total < z.leastTotal places ↔ total < z.floor.toNat * places := by
  unfold leastTotal
  rcases hfits with htotal | hfloor
  · omega
  · omega

/-- **The floor makes no difference to the counts**, as long as it can be reckoned with. -/
theorem spread_eq_evenly {z : ZoneSettings} (hplaces : 0 < places)
    (hfits : z.Reckons places total) : z.spread places total = evenly places total := by
  have hle : z.share places total * places ≤ total := by
    unfold share
    split
    · exact Nat.div_mul_le_self total places
    · next henough =>
      rw [lt_leastTotal_iff hfits] at henough
      exact Nat.le_of_not_lt henough
  rw [spread, replicate_eq_evenly hplaces, handOut_evenly hplaces, Nat.add_sub_cancel' hle]

/-! ## The zones of a plan -/

/-- What is left without repetitions has none. -/
theorem nodup_eraseDups (names : List String) : names.eraseDups.Nodup := by
  cases names with
  | nil => exact List.nodup_nil
  | cons name names =>
    rw [List.eraseDups_cons, List.nodup_cons]
    refine ⟨fun hmem => ?_, nodup_eraseDups _⟩
    have hne := (List.mem_filter.mp (List.mem_eraseDups.mp hmem)).2
    rw [beq_self_eq_true] at hne
    cases hne
termination_by names.length
decreasing_by exact Nat.lt_succ_of_le (List.length_filter_le _ _)

/-- The zones are ranked, and nothing else is. -/
theorem mem_ranked {z : ZoneSettings} {name : String} : name ∈ z.ranked ↔ name ∈ z.zones := by
  rw [ranked, List.mem_eraseDups, List.mem_append, List.mem_filter, decide_eq_true_eq]
  exact ⟨fun h => h.elim And.right id, .inr⟩

/-- **Every zone is ranked once.** -/
theorem perm_ranked {z : ZoneSettings} {names : List String} (hnodup : names.Nodup)
    (hnames : ∀ name, name ∈ names ↔ name ∈ z.zones) : z.ranked.Perm names :=
  (List.perm_ext_iff_of_nodup (nodup_eraseDups _) hnodup).mpr fun name =>
    mem_ranked.trans (hnames name).symm

/-- Every ranked zone is given a count. -/
theorem map_fst_zip_evenly {names : List String} (hpos : 0 < names.length) (total : Nat) :
    (names.zip ((evenly names.length total).map UInt32.ofNat)).map (·.1) = names :=
  List.map_fst_zip (Nat.le_of_eq (by rw [List.length_map, length_evenly hpos]))

/-- There is a zone exactly if some zone is ranked. -/
theorem length_ranked_pos {z : ZoneSettings} (hzones : z.zones ≠ []) : 0 < z.ranked.length := by
  obtain ⟨name, hname⟩ := List.exists_mem_of_ne_nil _ hzones
  exact List.length_pos_of_mem (mem_ranked.mpr hname)

end ZoneSettings

namespace ZonePlan

/-- Counts that lie close to each other make a small skew. -/
theorem skew_le_of_forall {p : ZonePlan} {low width : Nat}
    (hcounts : ∀ c ∈ p.counts, low ≤ c ∧ c ≤ low + width) : p.skew ≤ width := by
  unfold skew
  cases hmost : p.counts.max? with
  | none => exact Nat.le_trans (Nat.le_of_eq (Nat.zero_sub _)) (Nat.zero_le width)
  | some most =>
    have hmem := List.max?_mem hmost
    obtain ⟨least, hleast⟩ : ∃ least, p.counts.min? = some least :=
      Option.isSome_iff_exists.mp (List.isSome_min?_of_mem hmem)
    have hle := (hcounts most hmem).2
    have hge := (hcounts least (List.min?_mem hleast)).1
    rw [hleast]
    show most - least ≤ width
    omega

/-- What is asked of a plan: it has exactly the given zones, and the counts come to the total and
are no further apart than allowed. -/
structure Spreads (p : ZonePlan) (zones : List String) (total maxSkew : Nat) : Prop where
  /-- The zones are the given ones, each once. -/
  keys : p.keys.Perm zones
  /-- The counts come to the total. -/
  total_eq : p.total = total
  /-- The fullest and the emptiest zone are close. -/
  skew_le : p.skew ≤ maxSkew

end ZonePlan

namespace ZoneSettings

section

variable {z : ZoneSettings} (hzones : z.zones ≠ []) {total : UInt32}
  (hfits : z.Reckons z.ranked.length total.toNat)

include hzones hfits

/-- **A plan gives the ranked zones their counts, which are evenly spread.** -/
theorem plan_eq_ofList :
    (z.plan total).plan
      = .ofList (z.ranked.zip ((evenly z.ranked.length total.toNat).map UInt32.ofNat)) := by
  unfold plan
  rw [if_neg (by rwa [List.isEmpty_iff])]
  dsimp only
  rw [spread_eq_evenly (length_ranked_pos hzones) hfits]

/-- The entries of a plan are the ranked zones with evenly spread counts. -/
theorem perm_entries_plan :
    (z.plan total).plan.entries.Perm
      (z.ranked.zip ((evenly z.ranked.length total.toNat).map UInt32.ofNat)) := by
  rw [plan_eq_ofList hzones hfits]
  refine Table.perm_ofList ?_
  rw [map_fst_zip_evenly (length_ranked_pos hzones)]
  exact nodup_eraseDups _

/-- The zones of a plan are the ranked ones. -/
theorem perm_keys_plan : (z.plan total).plan.keys.Perm z.ranked := by
  have hkeys := (perm_entries_plan hzones hfits).map (·.1)
  rwa [map_fst_zip_evenly (length_ranked_pos hzones)] at hkeys

/-- **The counts of a plan are evenly spread.** -/
theorem perm_counts_plan :
    (z.plan total).plan.counts.Perm (evenly z.ranked.length total.toNat) := by
  have hpos := length_ranked_pos hzones
  have hcounts : (z.plan total).plan.counts.Perm _ :=
    ((perm_entries_plan hzones hfits).map fun e : String × UInt32 => e.2).map UInt32.toNat
  rw [List.map_snd_zip (Nat.le_of_eq (by rw [List.length_map, length_evenly hpos])),
    List.map_map] at hcounts
  -- no count is too great to be one
  have hcount : (evenly z.ranked.length total.toNat).map (UInt32.toNat ∘ UInt32.ofNat)
      = evenly z.ranked.length total.toNat := by
    refine (List.map_congr_left fun c hc => ?_).trans (List.map_id _)
    have hle := le_of_mem_evenly hpos hc
    exact UInt32.toNat_ofNat_of_lt' (Nat.lt_of_le_of_lt hle total.toNat_lt_size)
  rwa [hcount] at hcounts

/-- **A plan spreads its total.** -/
theorem total_plan : (z.plan total).plan.total = total.toNat := by
  rw [ZonePlan.total, ← List.sum_eq_foldr, (perm_counts_plan hzones hfits).sum_nat,
    List.sum_eq_foldr, sum_evenly (length_ranked_pos hzones)]

/-- **The fullest and the emptiest zone of a plan are at most one apart.** -/
theorem skew_plan_le_one : (z.plan total).plan.skew ≤ 1 :=
  ZonePlan.skew_le_of_forall fun _ hc =>
    mem_evenly ((perm_counts_plan hzones hfits).mem_iff.mp hc)

end

end ZoneSettings

/-- **Every plan for zones that make sense is as it is asked to be.** -/
theorem ZoneSettings.spreads_plan {z : ZoneSettings} (hcheck : z.check = .ok ()) {total : UInt32}
    (htotal : total.toNat < UInt32.size - 1) :
    (z.plan total).plan.Spreads z.zones total.toNat z.maxSkew.toNat := by
  obtain ⟨hzones, hnodup, -, hskew⟩ := ZoneSettings.check_eq_ok.mp hcheck
  have hfits : z.Reckons z.ranked.length total.toNat := .inl htotal
  refine ⟨(perm_keys_plan hzones hfits).trans (perm_ranked hnodup fun _ => Iff.rfl),
    total_plan hzones hfits, ?_⟩
  exact Nat.le_trans (skew_plan_le_one hzones hfits)
    (Nat.pos_of_ne_zero fun hzero => hskew (UInt32.toNat_inj.mp hzero))

end ClusterScaling
