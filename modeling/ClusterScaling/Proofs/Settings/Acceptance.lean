import ClusterScaling.Proofs.Double.Order
import ClusterScaling.Proofs.Settings.Saved

/-!
# Which settings are accepted

The check of settings looks for the first demand that cannot be met, in
an order that nobody needs to know: it accepts exactly the settings that
make sense, concern by concern (`Settings.check_eq_ok_iff_valid`).

One demand is not what it says. The scale of severity should be positive,
and what is refused is a scale that is zero or negative. For a float that
is not the same: of what is no number neither holds, so a scale that is no
number is accepted, while the tolerance and the weights, which are asked
for their bounds, have to be numbers. That is the only difference
(`Settings.accepts_iff_valid`).
-/

namespace ClusterScaling

namespace Settings

variable {s : Settings}

/-- **Settings pass exactly if they make sense.** Each concern passes its own check exactly if it
does, and what is put together here is in another order than the check has it. -/
theorem check_eq_ok_iff_valid : s.check = .ok () ↔ s.Valid := by
  have hcount {n : UInt32} : n ≠ 0 ↔ 1 ≤ n := by grind
  have hwide {n : UInt64} : n ≠ 0 ↔ 1 ≤ n := by grind
  simp only [check_eq_ok, TierSettings.check_eq_ok, MetricSpec.check_eq_ok_iff_valid,
    QuorumSettings.check_eq_ok, oddFrom_le_iff, ZoneSettings.check_eq_ok,
    AdviserSettings.check_eq_ok, CollectorSettings.check_eq_ok, EngineSettings.check_eq_ok,
    Bool.and_eq_true, Bool.not_eq_true', decide_eq_true_eq, decide_eq_false_iff_not, hcount, hwide]
  constructor
  · rintro ⟨htiers, hquorum, hzones, hadviser, ⟨hwidth, htime, hthreshold⟩, htolerance, hscale,
      hcapacity⟩
    exact
      { bounds := fun t => (htiers t).1
        metrics := fun t => (htiers t).2
        quorum := hquorum
        zones := hzones
        adviser := hadviser
        concurrency := hwidth
        fetchTimeout := htime
        failureThreshold := hthreshold
        tolerance := htolerance
        severityScale := hscale
        historyCapacity := hcapacity }
  · intro h
    exact ⟨fun t => ⟨h.bounds t, h.metrics t⟩, h.quorum, h.zones, h.adviser,
      ⟨h.concurrency, h.fetchTimeout, h.failureThreshold⟩, h.tolerance, h.severityScale,
      h.historyCapacity⟩

/-- A scale of severity that is not refused is positive exactly if it is a number. -/
theorem Valid.pos_iff (h : s.Valid) :
    0.0 < s.engine.severityScale ↔ s.engine.severityScale.isNaN = false := by
  have hzero : (0.0 : Float).isNaN = false := by decide +kernel
  have hscale := h.severityScale
  rw [Double.not_le_iff, hzero] at hscale
  constructor
  · intro hpos
    exact (Double.lt_iff.mp hpos).2.1
  · intro hnumber
    rw [hnumber] at hscale
    simpa using hscale

/-- **What is accepted, and where a positive scale of severity is missing.** The check passes exactly
if the bounds of both tiers are in order, their metrics make sense, some odd count of primaries is
allowed, zones and adviser make sense if there are any, collection and memory are within their
bounds, the tolerance is not below zero and below one, and the scale of severity is not zero or
negative. That it passes exactly if, besides, the scale is positive is true of all settings but
those that make sense otherwise and whose scale is no number. -/
theorem accepts_iff_valid (s : Settings) :
    (s.check = .ok () ↔ s.Valid)
      ∧ ((s.check = .ok () ↔ s.Valid ∧ 0.0 < s.engine.severityScale)
        ↔ ¬ (s.Valid ∧ s.engine.severityScale.isNaN = true)) := by
  refine ⟨check_eq_ok_iff_valid, ?_⟩
  rw [check_eq_ok_iff_valid]
  constructor
  · rintro hpositive ⟨hvalid, hnan⟩
    rw [hvalid.pos_iff.mp (hpositive.mp hvalid).2] at hnan
    cases hnan
  · intro hnumber
    refine ⟨fun hvalid => ⟨hvalid, hvalid.pos_iff.mpr ?_⟩, And.left⟩
    exact Bool.eq_false_iff.mpr fun hnan => hnumber ⟨hvalid, hnan⟩

/-- A file that says how far the mean load has to be from one for full severity, and no more than it
has to. -/
def scaledFile (scale : String) : String :=
  "primaries = \x7bmin_replicas = 1, max_replicas = 3\x7d\n" ++
    "secondaries = \x7bmin_replicas = 0, max_replicas = 9\x7d\n" ++
    "engine = \x7bseverity_scale = " ++ scale ++ "\x7d"

/-- A scale that is no number is read from a file and accepted, and it is not positive. -/
theorem accepts_unscaled : ∃ s, ofToml (scaledFile "nan") = .ok s ∧ s.check = .ok ()
    ∧ s.Valid ∧ s.engine.severityScale.isNaN = true ∧ ¬ 0.0 < s.engine.severityScale := by
  obtain ⟨s, hs, hnan, hnot⟩ := @exists_of_decide (scaledFile "nan")
    (fun s => s.engine.severityScale.isNaN = true ∧ ¬ 0.0 < s.engine.severityScale) _
    (by decide +kernel)
  obtain ⟨-, -, -, hcheck⟩ := ofToml_eq_ok.mp hs
  exact ⟨s, hs, hcheck, check_eq_ok_iff_valid.mp hcheck, hnan, hnot⟩

end Settings

end ClusterScaling
