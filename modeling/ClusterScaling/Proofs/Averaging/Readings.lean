import ClusterScaling.Averaging

/-!
# What a snapshot reads

The reading of a field is fresh exactly if somebody reported the field,
and then it is the mean of what was reported for it
(`Averaging.get_readings`). Whether the reports of other sources go into
it is a matter of who reports the field at all. If one source is the only
one of its tier that does, the order in which reports are summed up does
not matter, and the mean is of the values of that source
(`Averaging.get_snapshot_of_sole`).

A source that has failed is not read. It leaves the snapshot degraded, or
there is none, because no other source of some tier has succeeded either:
the tier is silent (`Averaging.snapshot_eq_error_iff`).
-/

namespace ClusterScaling

namespace Averaging

/-! ## The reading of a field -/

/-- Readings in which each of some fields is set to a value of its own. -/
theorem get_foldl_set (value : Field → Reading) (fields : List Field) (m : Readings)
    (field : Field) :
    (fields.foldl (fun m f => m.set f (value f)) m).get field
      = if field ∈ fields then value field else m.get field := by
  induction fields generalizing m with
  | nil => rfl
  | cons f fields ih =>
    rw [List.foldl_cons, ih, Readings.get_set]
    by_cases hmem : field ∈ fields
    · rw [if_pos hmem, if_pos (List.mem_cons_of_mem f hmem)]
    · rw [if_neg hmem]
      by_cases heq : f = field
      · subst heq
        rw [if_pos rfl, if_pos List.mem_cons_self]
      · have hnot : field ∉ f :: fields := by
          rw [List.mem_cons]
          rintro (h | h)
          · exact heq h.symm
          · exact hmem h
        rw [if_neg heq, if_neg hnot]

theorem get_absent (field : Field) : Readings.absent.get field = .absent := by
  cases field <;> rfl

/-- **The reading of a field is the mean of what was reported for it**, and absent if nothing was. -/
theorem get_readings (r : Report) (field : Field) :
    (readings r).get field
      = if field ∈ r.map (·.1) then .ofLive (mean (valuesOf field r)) else .absent := by
  rw [readings, get_foldl_set fun f => .ofLive (mean (valuesOf f r)), get_absent]

/-- **A field is fresh exactly if it was reported.** -/
theorem fresh_readings (r : Report) (field : Field) :
    ((readings r).get field).fresh = true ↔ field ∈ r.map (·.1) := by
  rw [get_readings]
  split
  · next hmem => exact iff_of_true rfl hmem
  · next hnot => exact iff_of_false nofun hnot

/-- A field that was not reported has no values. -/
theorem valuesOf_eq_nil {r : Report} {field : Field} (h : field ∉ r.map (·.1)) :
    valuesOf field r = [] := by
  refine List.map_eq_nil_iff.mpr (List.filter_eq_nil_iff.mpr fun v hv heq => h ?_)
  exact List.mem_map.mpr ⟨v, hv, of_decide_eq_true heq⟩

/-- The values of a field on a tier are those that its sources report, one source after the other. -/
theorem valuesOf_reports (field : Field) (os : List SourceOutcome) (t : Tier) :
    valuesOf field (reports os t)
      = (os.filter fun o => o.source.tier = t).flatMap fun o => valuesOf field o.report := by
  rw [valuesOf, reports, List.filter_flatMap, List.map_flatMap]
  rfl

/-! ## A field that one source reports -/

/-- Of things with different keys, one is the only one that contributes. -/
theorem flatMap_of_sole {α β κ : Type} (key : α → κ) {f : α → List β} {as : List α} {a : α}
    (hmem : a ∈ as) (hkeys : (as.map key).Nodup)
    (hsole : ∀ b ∈ as, key b ≠ key a → f b = []) : as.flatMap f = f a := by
  obtain ⟨before, after, rfl⟩ := List.append_of_mem hmem
  rw [List.map_append, List.map_cons, List.nodup_append, List.nodup_cons] at hkeys
  obtain ⟨-, ⟨hafter, -⟩, hbefore⟩ := hkeys
  have hleft : before.flatMap f = [] := by
    refine List.flatMap_eq_nil_iff.mpr fun b hb => ?_
    refine hsole b (List.mem_append_left _ hb) ?_
    exact hbefore _ (List.mem_map_of_mem hb) _ List.mem_cons_self
  have hright : after.flatMap f = [] := by
    refine List.flatMap_eq_nil_iff.mpr fun b hb => ?_
    refine hsole b (List.mem_append_right _ (List.mem_cons_of_mem a hb)) fun heq => hafter ?_
    rw [← heq]
    exact List.mem_map_of_mem hb
  rw [List.flatMap_append, List.flatMap_cons, hleft, hright, List.append_nil, List.nil_append]

section

variable {asked : List SourceRef} {os : List SourceOutcome} {wall : UInt64} {s : Snapshot}
  {t : Tier} {field : Field}

/-- A snapshot has the readings of what the sources of each tier reported. -/
theorem tiers_of_snapshot (h : snapshot asked os wall = .ok s) (t : Tier) :
    s.tiers.get t = readings (reports (SourceOutcome.sorted os) t) := by
  unfold snapshot at h
  dsimp only at h
  split at h
  · cases h
  · cases h
    rw [PerTier.get_ofFun]

theorem sorted_perm (os : List SourceOutcome) : (SourceOutcome.sorted os).Perm os :=
  List.mergeSort_perm os _

/-- Two outcomes that come in the order of their sources stay as they are. -/
theorem sorted_of_le {a b : SourceOutcome} (h : a.source.id ≤ b.source.id) :
    SourceOutcome.sorted [a, b] = [a, b] :=
  List.mergeSort_of_pairwise (List.pairwise_pair.mpr (decide_eq_true h))

theorem mem_sorted {o : SourceOutcome} : o ∈ SourceOutcome.sorted os ↔ o ∈ os :=
  (sorted_perm os).mem_iff

/-- **A reading is fresh exactly if a source of the tier reported the field.** -/
theorem fresh_snapshot (h : snapshot asked os wall = .ok s) :
    ((s.tiers.get t).get field).fresh = true
      ↔ ∃ o ∈ os, o.source.tier = t ∧ field ∈ o.report.map (·.1) := by
  rw [tiers_of_snapshot h, fresh_readings, reports, List.map_flatMap, List.mem_flatMap]
  constructor
  · rintro ⟨o, ho, hfield⟩
    obtain ⟨ho, htier⟩ := List.mem_filter.mp ho
    exact ⟨o, mem_sorted.mp ho, of_decide_eq_true htier, hfield⟩
  · rintro ⟨o, ho, htier, hfield⟩
    exact ⟨o, List.mem_filter.mpr ⟨mem_sorted.mpr ho, decide_eq_true htier⟩, hfield⟩

/-- **A field that one source of the tier reports reads as the mean of its own values.** -/
theorem get_snapshot_of_sole (h : snapshot asked os wall = .ok s)
    (hids : (os.map (·.source.id)).Nodup) {o : SourceOutcome} (ho : o ∈ os)
    (htier : o.source.tier = t) (hfield : field ∈ o.report.map (·.1))
    (hsole : ∀ other ∈ os, other.source.tier = t → other.source.id ≠ o.source.id →
      field ∉ other.report.map (·.1)) :
    (s.tiers.get t).get field = .ofLive (mean (valuesOf field o.report)) := by
  have hperm := sorted_perm os
  have hsublist : ((SourceOutcome.sorted os).filter fun o => o.source.tier = t).Sublist
      (SourceOutcome.sorted os) := List.filter_sublist
  have hvalues :
      valuesOf field (reports (SourceOutcome.sorted os) t) = valuesOf field o.report := by
    rw [valuesOf_reports]
    refine flatMap_of_sole (fun o => o.source.id) ?_ ?_ ?_
    · exact List.mem_filter.mpr ⟨mem_sorted.mpr ho, decide_eq_true htier⟩
    · exact (hsublist.map _).nodup ((hperm.map _).nodup_iff.mpr hids)
    · intro other hother hne
      obtain ⟨hother, htier'⟩ := List.mem_filter.mp hother
      exact valuesOf_eq_nil (hsole other (mem_sorted.mp hother) (of_decide_eq_true htier') hne)
  have hfresh : field ∈ (reports (SourceOutcome.sorted os) t).map (·.1) := by
    rw [← fresh_readings, ← tiers_of_snapshot h, fresh_snapshot h]
    exact ⟨o, ho, htier, hfield⟩
  rw [tiers_of_snapshot h, get_readings, if_pos hfresh, hvalues]

/-! ## Sources that fail -/

/-- A tier is silent if it was asked and no source of it has succeeded. -/
def Silent (asked : List SourceRef) (os : List SourceOutcome) (t : Tier) : Prop :=
  (∃ r ∈ asked, r.tier = t) ∧ ∀ o ∈ os, o.source.tier = t → o.succeeded = false

theorem silent_iff : (asked.any (fun s => s.tier = t)
      && !os.any fun o => o.source.tier = t && o.succeeded) = true ↔ Silent asked os t := by
  simp [Silent]

theorem silent_sorted : Silent asked (SourceOutcome.sorted os) t ↔ Silent asked os t := by
  simp only [Silent, mem_sorted]

/-- There is no silent tier to be found exactly if there is none. -/
theorem silentTier?_eq_none : silentTier? asked os = none ↔ ∀ t, ¬ Silent asked os t := by
  simp only [silentTier?, List.find?_eq_none, Tier.mem_all, true_implies, silent_iff]

/-- The silent tier that is found is the first one. -/
theorem silentTier?_eq_some : silentTier? asked os = some t
    ↔ Silent asked os t ∧ (t = .secondaries → ¬ Silent asked os .primaries) := by
  rw [silentTier?, Tier.find?_all_eq_some, ← Bool.not_eq_true, silent_iff, silent_iff]

/-- **There is no snapshot exactly if a tier is silent**, and then the fault names the first one. -/
theorem snapshot_eq_error_iff {fault : Fault} : snapshot asked os wall = .error fault
    ↔ ∃ t, fault = .metricsUnavailable t ∧ Silent asked os t
      ∧ (t = .secondaries → ¬ Silent asked os .primaries) := by
  have hfound (t : Tier) : silentTier? asked (SourceOutcome.sorted os) = some t
      ↔ Silent asked os t ∧ (t = .secondaries → ¬ Silent asked os .primaries) := by
    rw [silentTier?_eq_some, silent_sorted, silent_sorted]
  simp only [← hfound]
  unfold snapshot
  dsimp only
  cases silentTier? asked (SourceOutcome.sorted os) with
  | some t => simp [eq_comm]
  | none => simp

/-- There is a snapshot exactly if no tier is silent. -/
theorem exists_snapshot_iff : (∃ s, snapshot asked os wall = .ok s) ↔ ∀ t, ¬ Silent asked os t := by
  have hfound : silentTier? asked (SourceOutcome.sorted os) = none ↔ ∀ t, ¬ Silent asked os t := by
    simp only [silentTier?_eq_none, silent_sorted]
  rw [← hfound]
  unfold snapshot
  dsimp only
  cases silentTier? asked (SourceOutcome.sorted os) with
  | some t => simp
  | none => simp

/-- There is no snapshot only if some tier was asked and none of its sources has succeeded. -/
theorem unavailable_of_snapshot {fault : Fault} (h : snapshot asked os wall = .error fault) :
    ∃ t, fault = .metricsUnavailable t ∧ (∃ r ∈ asked, r.tier = t)
      ∧ ∀ o ∈ os, o.source.tier = t → o.succeeded = false :=
  have ⟨t, hfault, hsilent, _⟩ := snapshot_eq_error_iff.mp h
  ⟨t, hfault, hsilent⟩

/-- In a snapshot, a source of every tier that was asked has succeeded. -/
theorem succeeded_of_snapshot (h : snapshot asked os wall = .ok s) {r : SourceRef}
    (hr : r ∈ asked) : ∃ o ∈ os, o.source.tier = r.tier ∧ o.succeeded = true := by
  have hheard := exists_snapshot_iff.mp ⟨s, h⟩ r.tier
  refine Classical.byContradiction fun hnone => hheard ⟨⟨r, hr, rfl⟩, fun o ho htier => ?_⟩
  exact Bool.eq_false_iff.mpr fun hok => hnone ⟨o, ho, htier, hok⟩

/-- **A snapshot is degraded exactly if a source has failed.** -/
theorem degraded_snapshot (h : snapshot asked os wall = .ok s) :
    s.degraded = true ↔ ∃ o ∈ os, o.succeeded = false := by
  unfold snapshot at h
  dsimp only at h
  split at h
  · cases h
  · cases h
    simp only [List.any_eq_true, mem_sorted, Bool.not_eq_true']

end

end Averaging

end ClusterScaling
