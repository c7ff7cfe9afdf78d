import ClusterScaling.Proofs.Averaging.Order

/-!
# What a snapshot says, and what it does not

A snapshot is made from whatever has arrived, so it has to be said which
of its readings mean something. A reading is fresh exactly if a source of
its own tier that did not fail reported the field, and it is then the sum
of what was reported for it, taken in the order of the identities of the
sources, over the number of reports. Nothing else is fresh, and what is
not fresh has no value. There is no snapshot exactly if a tier was asked
and all of it failed (`Averaging.snapshot_exact`).

The order in which a sum is taken is said without sorting: it is that of
the one ranking of the outcomes. The two tiers are told apart before
anything is added up, and a tier that is ranked alone is ranked as among
all outcomes, so the readings of a tier are a function of its own
outcomes (`Averaging.tiers_of_own`).
-/

namespace ClusterScaling

namespace Averaging

variable {asked asked' : List SourceRef} {os os' : List SourceOutcome} {wall wall' : UInt64}
  {s s' : Snapshot} {t : Tier} {field : Field}

/-- A field is among what a source reported only if the source did not fail. -/
theorem mem_report_iff {o : SourceOutcome} :
    field ∈ o.report.map (·.1) ↔ ∃ r, o.result = .ok r ∧ field ∈ r.map (·.1) := by
  unfold SourceOutcome.report
  cases o.result with
  | ok r => simp
  | error fault => simp

/-- **The readings of a tier are a function of the outcomes of its own sources.** -/
theorem tiers_of_own (h : snapshot asked os wall = .ok s) (h' : snapshot asked' os' wall' = .ok s')
    (hown : (os.filter fun o => o.source.tier = t) = os'.filter fun o => o.source.tier = t) :
    s.tiers.get t = s'.tiers.get t := by
  rw [tiers_of_snapshot h, tiers_of_snapshot h', reports, reports, SourceOutcome.filter_sorted,
    SourceOutcome.filter_sorted, hown]

/-- A fresh reading is the mean of what the sources of its tier reported, as they are ranked. -/
theorem value_snapshot (h : snapshot asked os wall = .ok s)
    (hfresh : ((s.tiers.get t).get field).fresh = true) :
    ((s.tiers.get t).get field).value
      = mean (((SourceOutcome.sorted os).filter fun o => o.source.tier = t).flatMap
          fun o => valuesOf field o.report) := by
  rw [tiers_of_snapshot h] at hfresh ⊢
  rw [get_readings, if_pos ((fresh_readings _ _).mp hfresh), valuesOf_reports]
  rfl

/-- A reading that is not fresh has no value. -/
theorem absent_snapshot (h : snapshot asked os wall = .ok s)
    (hstale : ((s.tiers.get t).get field).fresh = false) :
    (s.tiers.get t).get field = .absent := by
  rw [tiers_of_snapshot h] at hstale ⊢
  rw [get_readings, if_neg fun hmem => ?_]
  rw [(fresh_readings _ _).mpr hmem] at hstale
  cases hstale

/-- **A snapshot is exact.** Whatever was asked and whatever became of it:

* there is no snapshot exactly if a tier was asked and no source of it succeeded, and then the fault
  names the first such tier;
* otherwise there is one, and in it the reading of a field on a tier is fresh exactly if a source of
  that tier succeeded and reported the field; a fresh reading is the sum of the values reported for
  it, in the order of the identities of their sources, divided by their number; and a reading that
  is not fresh has no value;
* the readings of a tier are the same in all snapshots for which its own sources did the same. -/
theorem snapshot_exact (asked : List SourceRef) (os : List SourceOutcome) (wall : UInt64) :
    (∀ fault, snapshot asked os wall = .error fault ↔
        ∃ t, fault = .metricsUnavailable t ∧ Silent asked os t
          ∧ (t = .secondaries → ¬ Silent asked os .primaries))
      ∧ ((∃ s, snapshot asked os wall = .ok s) ↔ ∀ t, ¬ Silent asked os t)
      ∧ (∃ ranked, SourceOutcome.Ranks os ranked ∧
          ∀ s, snapshot asked os wall = .ok s → ∀ t field,
            let reading := (s.tiers.get t).get field
            let values := (ranked.filter fun o => o.source.tier = t).flatMap
              fun o => valuesOf field o.report
            (reading.fresh = true ↔
                ∃ o ∈ os, o.source.tier = t ∧ ∃ r, o.result = .ok r ∧ field ∈ r.map (·.1))
              ∧ (reading.fresh = true → reading.value
                  = values.foldl (· + ·) 0.0 / (UInt64.ofNat values.length).toFloat)
              ∧ (reading.fresh = false → reading = .absent))
      ∧ ∀ t asked' os' wall' s s',
          ((os.filter fun o => o.source.tier = t) = os'.filter fun o => o.source.tier = t) →
          snapshot asked os wall = .ok s → snapshot asked' os' wall' = .ok s' →
          s.tiers.get t = s'.tiers.get t := by
  refine ⟨fun fault => snapshot_eq_error_iff, exists_snapshot_iff, ?_, ?_⟩
  · refine ⟨SourceOutcome.sorted os, SourceOutcome.ranks_sorted os, ?_⟩
    intro s hs t field reading values
    refine ⟨?_, value_snapshot hs, absent_snapshot hs⟩
    rw [fresh_snapshot hs]
    simp only [mem_report_iff]
  · intro t asked' os' wall' s s' hown hs hs'
    exact tiers_of_own hs hs' hown

end Averaging

end ClusterScaling
