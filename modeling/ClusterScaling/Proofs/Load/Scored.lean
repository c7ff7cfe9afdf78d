import ClusterScaling.Proofs.Proposal.Conservative

/-!
# Which metrics are scored

Whether a tier may shrink is decided by comparing two lengths: that of the
list of scored metrics and that of the list of configured ones. This says
what it is meant to say because every configured metric has exactly one
outcome. It is scored if nothing speaks against it (`Loads.Scorable`), then
with what it asks for and what is read for it (`Loads.Measures`), and
skipped otherwise, for the first thing that does (`Loads.Prevents`).

`Loads.measure_cases` says so of one metric. The two lists are read off the
outcomes in the order of the metrics, so they are the two complementary
parts of them, and one is as long as all of them exactly if the other one is
empty. Metrics may repeat a field or each other, and each one counts.
-/

namespace ClusterScaling

/-- Whether a target can be told is known once it has been looked for. -/
instance (m : MetricSpec) : Decidable (∃ t, m.target? = .ok t) :=
  match m.target? with
  | .ok t => isTrue ⟨t, rfl⟩
  | .error _ => isFalse nofun

namespace Loads

variable {r : Readings} {m : MetricSpec}

/-- A metric can be scored: it has a finite and positive weight, a target, and a value of this
cycle. -/
def Scorable (r : Readings) (m : MetricSpec) : Prop :=
  (m.weight.isFinite = true ∧ 0.0 < m.weight) ∧ (∃ t, m.target? = .ok t)
    ∧ (r.get m.field).fresh = true

instance (r : Readings) (m : MetricSpec) : Decidable (Scorable r m) :=
  inferInstanceAs (Decidable (_ ∧ _ ∧ _))

/-- A load is that of a metric under readings. -/
structure Measures (r : Readings) (m : MetricSpec) (l : Load Float) : Prop where
  /-- The load is named like the metric. -/
  label : l.label = m.label
  /-- The load is of the quantity of the metric. -/
  kind : l.kind = m.kind
  /-- The weight is that of the metric. -/
  weight : l.weight = m.weight
  /-- The weight is finite and positive. -/
  weight_usable : l.weight.isFinite = true ∧ 0.0 < l.weight
  /-- The target is that of the metric, and the live value is the reading of its own field, in the
  unit of the target. -/
  current : ∃ t, m.target? = .ok t ∧ l.target = t.value
    ∧ l.current = t.inUnitOf m.kind (r.get m.field).value
  /-- The reading is of this cycle. -/
  fresh : (r.get m.field).fresh = true
  /-- The target is finite and positive. -/
  target_usable : l.target.isFinite = true ∧ 0.0 < l.target

/-- What prevents a metric from being scored: the first of three things. -/
inductive Prevents (r : Readings) (m : MetricSpec) : Unscored → Prop where
  /-- Its weight is not finite and positive. -/
  | badWeight (hweight : ¬ (m.weight.isFinite = true ∧ 0.0 < m.weight)) : Prevents r m .badWeight
  /-- It has a weight but no target. -/
  | badTarget {fault : Fault} (hweight : m.weight.isFinite = true ∧ 0.0 < m.weight)
      (htarget : m.target? = .error fault) : Prevents r m (.badTarget fault)
  /-- It has a weight and a target but no value of this cycle. -/
  | notLive (hweight : m.weight.isFinite = true ∧ 0.0 < m.weight)
      (htarget : ∃ t, m.target? = .ok t) (hstale : (r.get m.field).fresh = false) :
      Prevents r m .notLive

/-- What prevents a metric from being scored does prevent it. -/
theorem Prevents.not_scorable {cause : Unscored} (h : Prevents r m cause) : ¬ Scorable r m := by
  rintro ⟨hweight, ⟨t, htarget⟩, hfresh⟩
  cases h with
  | badWeight hbad => exact hbad hweight
  | badTarget _ hfault => cases htarget.symm.trans hfault
  | notLive _ _ hstale => cases hfresh.symm.trans hstale

theorem measures_of_measure {l : Load Float} (h : measure Float r m = .ok l) :
    Scorable r m ∧ Measures r m l := by
  obtain ⟨hweight, t, live, htarget, hlive, rfl⟩ := measure_eq_ok h
  obtain ⟨hfresh, rfl⟩ : (r.get m.field).fresh = true ∧ (r.get m.field).value = live := by
    simpa [Reading.live?] using hlive
  have husable := Target.isUsable_iff.mp hweight
  exact ⟨⟨husable, ⟨t, htarget⟩, hfresh⟩, rfl, rfl, rfl, husable, ⟨t, htarget, rfl, rfl⟩, hfresh,
    Target.isUsable_iff.mp (MetricSpec.isUsable_target htarget)⟩

theorem prevents_of_measure {cause : Unscored} (h : measure Float r m = .error cause) :
    Prevents r m cause := by
  unfold measure at h
  split at h
  · next hweight =>
    cases h
    exact .badWeight fun husable => by simp [Target.isUsable_iff.mpr husable] at hweight
  · next hweight =>
    have husable := Target.isUsable_iff.mp (by simpa using hweight : Target.isUsable m.weight = true)
    split at h
    · next fault htarget =>
      cases h
      exact .badTarget husable htarget
    · next t htarget =>
      split at h
      · next hlive =>
        cases h
        exact .notLive husable ⟨t, htarget⟩ (by simpa [Reading.live?] using hlive)
      · cases h

/-- **A metric is scored exactly if it can be**, and otherwise something prevents it. -/
theorem measure_cases (r : Readings) (m : MetricSpec) :
    (Scorable r m ∧ ∃ l, measure Float r m = .ok l ∧ Measures r m l)
      ∨ (¬ Scorable r m ∧ ∃ cause, measure Float r m = .error cause ∧ Prevents r m cause) := by
  cases h : measure Float r m with
  | ok l => exact .inl ⟨(measures_of_measure h).1, l, rfl, (measures_of_measure h).2⟩
  | error cause =>
    have hprevents := prevents_of_measure h
    exact .inr ⟨hprevents.not_scorable, cause, rfl, hprevents⟩

/-! ## Both lists -/

/-- **The metrics fall into those that are scored and those that are skipped**, both in their
order. -/
theorem forall₂_ofReadings (specs : List MetricSpec) (r : Readings) :
    List.Forall₂ (Measures r) (specs.filter fun m => Scorable r m) (ofReadings Float specs r).scored
      ∧ List.Forall₂ (fun m s => s.1 = m.label ∧ Prevents r m s.2)
        (specs.filter fun m => ¬ Scorable r m) (ofReadings Float specs r).skipped := by
  induction specs with
  | nil => exact ⟨.nil, .nil⟩
  | cons m specs ih =>
    unfold scored skipped ofReadings at ih ⊢
    rw [List.map_cons]
    rcases measure_cases r m with ⟨hm, l, hl, hmeasures⟩ | ⟨hm, cause, hcause, hprevents⟩
    · rw [hl, List.filter_cons_of_pos (by simpa using hm),
        List.filter_cons_of_neg (by simpa using hm)]
      exact ⟨.cons hmeasures ih.1, ih.2⟩
    · rw [hcause, List.filter_cons_of_neg (by simpa using hm),
        List.filter_cons_of_pos (by simpa using hm)]
      exact ⟨ih.1, .cons ⟨rfl, hprevents⟩ ih.2⟩

/-- No metric is lost and none is counted twice. -/
theorem length_scored_add_length_skipped (l : Loads Float) :
    l.scored.length + l.skipped.length = l.configured := by
  unfold scored skipped configured
  induction l.outcomes with
  | nil => rfl
  | cons o outcomes ih =>
    obtain ⟨label, result⟩ := o
    cases result <;> simp <;> omega

/-- Loads are complete exactly if nothing was skipped. -/
theorem isComplete_iff (l : Loads Float) : l.isComplete = true ↔ l.skipped = [] := by
  have hlength := length_scored_add_length_skipped l
  rw [isComplete, beq_iff_eq, ← List.length_eq_zero_iff]
  omega

/-- **The metrics of a tier are scored or skipped, each of them, in their order.** A metric is scored
exactly if it has a finite and positive weight, a target and a value of this cycle; a load has a
finite and positive target and weight and the reading of the metric's own field; and what is skipped
is skipped for the first thing that is missing. So loads are complete if and only if nothing was
skipped, and only then does the engine find them below the band. -/
theorem ofReadings_partitions (specs : List MetricSpec) (r : Readings) :
    let l := ofReadings Float specs r
    l.configured = specs.length ∧ l.scored.length + l.skipped.length = l.configured
      ∧ List.Forall₂ (Measures r) (specs.filter fun m => Scorable r m) l.scored
      ∧ List.Forall₂ (fun m s => s.1 = m.label ∧ Prevents r m s.2)
        (specs.filter fun m => ¬ Scorable r m) l.skipped
      ∧ (l.isComplete = true ↔ l.skipped = [])
      ∧ ∀ (e : EngineSettings) current d, l.demand? e current = some d →
        (d.side = .below ↔ l.skipped = [] ∧ ¬ d.band.upper < e.trigger.driver l d.composite
          ∧ e.trigger.driver l d.composite < d.band.lower) := by
  intro l
  obtain ⟨hscored, hskipped⟩ := forall₂_ofReadings specs r
  refine ⟨configured_ofReadings specs r, length_scored_add_length_skipped l, hscored, hskipped,
    isComplete_iff l, fun e current d hd => ?_⟩
  obtain ⟨composite, -, rfl⟩ := Option.map_eq_some_iff.mp hd
  have hless (x y : Float) : Scalar.less x y = decide (x < y) := rfl
  refine Band.side_eq_below_iff.trans ?_
  rw [hless, hless, decide_eq_false_iff_not, decide_eq_true_eq, isComplete_iff]
  exact and_left_comm

/-- A tier whose processors are at 10 of 70 does not shrink as long as its memory is not read. -/
theorem ofReadings_partitions_unread :
    let specs : List MetricSpec := [.ofKind .cpu "70", .ofKind .memory "80%"]
    let l := ofReadings Float specs { Readings.absent with cpu := .ofLive 10.0 }
    l.scored.length = 1 ∧ l.skipped = [("memory", .notLive)] ∧ ∃ d, l.demand? .usual 4 = some d
      ∧ EngineSettings.usual.trigger.driver l d.composite < d.band.lower ∧ d.side ≠ .below := by
  intro specs l
  have hskipped : l.skipped = [("memory", .notLive)] := by decide +kernel
  have hdemand : (l.demand? .usual 4).isSome = true := by decide +kernel
  obtain ⟨d, hd⟩ := Option.isSome_iff_exists.mp hdemand
  have hlow : ∀ d ∈ l.demand? .usual 4,
      EngineSettings.usual.trigger.driver l d.composite < d.band.lower := by decide +kernel
  obtain ⟨-, -, -, -, -, hbelow⟩ := ofReadings_partitions specs
    { Readings.absent with cpu := .ofLive 10.0 }
  refine ⟨by decide +kernel, hskipped, d, hd, hlow d hd, fun hside => ?_⟩
  have hnone := ((hbelow .usual 4 d hd).mp hside).1
  cases hskipped.symm.trans hnone

end Loads

end ClusterScaling
