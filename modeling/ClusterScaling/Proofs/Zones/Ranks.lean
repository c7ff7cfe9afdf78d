import Mathlib.Data.List.Nodup
import ClusterScaling.Proofs.Zones.Spread

/-!
# What a zone gets by its rank

A plan is made by handing out replicas one at a time, but what a zone gets
can be told at once from its rank among the zones: the quotient of the
total by the number of zones, and one more if the rank is below the
remainder (`ZoneSettings.quota`). The zones are ranked by preference and
then as they are listed, and a name that stands twice in either list
counts where it stands first (`ZoneSettings.ranked_eq`).

So the zones take turns. If there is one replica more, it goes to the zone
whose rank is the remainder, and no other count changes. The floor and the
greatest skew that is allowed have no part in this: they only decide
whether the plan is reported as one for which something had to be relaxed.
-/

namespace ClusterScaling

namespace ZoneSettings

/-! ## Ranks -/

/-- The zones that are preferred come first, in the order of preference, and then the others as
they are listed. -/
theorem ranked_eq (z : ZoneSettings) :
    z.ranked = (z.preference.filter fun p => p ∈ z.zones).eraseDups
      ++ (z.zones.filter fun p => p ∉ z.preference).eraseDups := by
  have hothers : z.zones.removeAll (z.preference.filter fun p => p ∈ z.zones)
      = z.zones.filter fun p => p ∉ z.preference := by
    refine List.filter_congr fun name hname => ?_
    simp [hname]
  rw [ranked, List.eraseDups_append, hothers]

/-! ## Quotas -/

variable {places total rank : Nat}

/-- What the place at a rank gets of a total that is spread evenly. -/
def quota (places total rank : Nat) : Nat :=
  total / places + if rank < total % places then 1 else 0

/-- **Counts that are spread evenly are the quotas.** -/
theorem getElem?_evenly (total : Nat) (hrank : rank < places) :
    (evenly places total)[rank]? = some (quota places total rank) := by
  rw [evenly, List.getElem?_append, List.length_replicate, quota]
  split
  · next hfuller => rw [List.getElem?_replicate, if_pos hfuller]
  · next hemptier => rw [List.getElem?_replicate, if_pos (by omega), Nat.add_zero]

/-- **With one more in total, the place whose rank is the remainder gets one more.** -/
theorem quota_succ (total : Nat) (hrank : rank < places) :
    quota places (total + 1) rank
      = quota places total rank + if rank = total % places then 1 else 0 := by
  have hpos : 0 < places := Nat.lt_of_le_of_lt (Nat.zero_le rank) hrank
  unfold quota
  rcases succ_div_mod hpos total with ⟨hlast, hdiv, hmod⟩ | ⟨-, hdiv, hmod⟩
  · rw [hdiv, hmod]
    grind
  · rw [hdiv, hmod]
    grind

/-! ## Plans -/

section

variable {z : ZoneSettings} (hzones : z.zones ≠ []) {total : UInt32}
  (hfits : z.Reckons z.ranked.length total.toNat)

include hzones hfits

/-- **A plan gives the zone at a rank its quota.** -/
theorem toNat_get?_plan {rank : Nat} {name : String} (hname : z.ranked[rank]? = some name) :
    ((z.plan total).plan.get? name).map UInt32.toNat
      = some (quota z.ranked.length total.toNat rank) := by
  have hpos := length_ranked_pos hzones
  have hcount := getElem?_evenly total.toNat (List.getElem?_eq_some_iff.mp hname).1
  have hnodup : ((z.ranked.zip ((evenly z.ranked.length total.toNat).map UInt32.ofNat)).map
      (·.1)).Nodup := by
    rw [map_fst_zip_evenly hpos]
    exact nodup_eraseDups _
  have hmem : (name, UInt32.ofNat (quota z.ranked.length total.toNat rank))
      ∈ z.ranked.zip ((evenly z.ranked.length total.toNat).map UInt32.ofNat) :=
    List.mem_of_getElem? (List.getElem?_zip_eq_some.mpr
      ⟨hname, by rw [List.getElem?_map, hcount, Option.map_some]⟩)
  have hle : quota z.ranked.length total.toNat rank ≤ total.toNat :=
    le_of_mem_evenly hpos (List.mem_of_getElem? hcount)
  rw [plan_eq_ofList hzones hfits, Table.get?_ofList_of_mem hnodup hmem, Option.map_some,
    UInt32.toNat_ofNat_of_lt' (Nat.lt_of_le_of_lt hle total.toNat_lt_size)]

/-- A plan gives nothing to what is no zone. -/
theorem get?_plan_eq_none {name : String} (hname : name ∉ z.ranked) :
    (z.plan total).plan.get? name = none := by
  refine Table.lookup_eq_none fun e he heq => hname ?_
  exact (perm_keys_plan hzones hfits).mem_iff.mp (heq ▸ List.mem_map_of_mem he)

/-- **With one replica more, the zone whose rank is the remainder gets it, and no other count
changes.** -/
theorem toNat_get?_plan_succ (hnext : z.Reckons z.ranked.length (total + 1).toNat)
    (hsucc : (total + 1).toNat = total.toNat + 1) (name : String) :
    ((z.plan (total + 1)).plan.get? name).map UInt32.toNat
      = ((z.plan total).plan.get? name).map fun c =>
        c.toNat + if z.ranked[total.toNat % z.ranked.length]? = some name then 1 else 0 := by
  by_cases hname : name ∈ z.ranked
  · obtain ⟨rank, hrank⟩ := List.mem_iff_getElem?.mp hname
    have hlt := (List.getElem?_eq_some_iff.mp hrank).1
    have hturn : z.ranked[total.toNat % z.ranked.length]? = some name
        ↔ rank = total.toNat % z.ranked.length := by
      rw [← hrank, eq_comm]
      exact List.getElem?_inj hlt (nodup_eraseDups _)
    obtain ⟨c, hc, hcount⟩ := Option.map_eq_some_iff.mp (toNat_get?_plan hzones hfits hrank)
    rw [toNat_get?_plan hzones hnext hrank, hc, Option.map_some, hcount, hsucc,
      quota_succ total.toNat hlt]
    simp only [hturn]
  · rw [get?_plan_eq_none hzones hfits hname, get?_plan_eq_none hzones hnext hname]
    rfl

/-- **Nothing had to be relaxed exactly if the floors are met and the skew is allowed.** -/
theorem isFeasible_plan :
    (z.plan total).isFeasible = true
      ↔ z.floor.toNat * z.ranked.length ≤ total.toNat
        ∧ (z.plan total).plan.skew ≤ z.maxSkew.toNat := by
  have hnotes : (z.plan total).notes = [] ↔ ¬total.toNat < z.leastTotal z.ranked.length
      ∧ ¬z.maxSkew.toNat < (z.plan total).plan.skew := by
    unfold plan
    rw [if_neg (by rwa [List.isEmpty_iff])]
    dsimp only
    rw [List.append_eq_nil_iff]
    simp
  rw [PlanOutcome.isFeasible, List.isEmpty_iff, hnotes, lt_leastTotal_iff hfits, Nat.not_lt,
    Nat.not_lt]

end

end ZoneSettings

end ClusterScaling
