import ClusterScaling.Proofs.Cycle.Landing
import ClusterScaling.Proofs.Double.Bounds
import ClusterScaling.Proposal

/-!
# Removing replicas is conservative

Under `eagerUp` a tier within its bounds loses replicas only if its
greatest load is below the band and all of its metrics are scored. There
is no other way down: above the band the count asked for is not less than
the live one, however it is rounded (`le_proportional`), and within the
band nothing is asked for (`Loads.below_of_target_lt`).

That the greatest load is below the band is meant to say that all are.
But the greatest load passes over what is no number, so it does not speak
for a metric whose reading is none. Such a metric is scored, since it has
a live value, and is not below the band, since no comparison holds of it,
and yet it does not keep the tier from shrinking; a tier that has no other
metric is reduced to its least count (`scaleDown_unread`). The main result
says that this is the only exception (`scaleDown_conservative`).
-/

namespace ClusterScaling

/-! ## Metrics that are scored -/

/-- A target that a metric has is finite and positive. -/
theorem MetricSpec.isUsable_target {m : MetricSpec} {t : Target} (h : m.target? = .ok t) :
    Target.isUsable t.value = true := by
  unfold target? at h
  split at h
  · split at h
    · next husable =>
      cases h
      exact husable
    · cases h
  · cases h

namespace Loads

variable {m : MetricSpec} {r : Readings}

/-- **What a scored metric has**: a usable weight, a target and a live value. -/
theorem measure_eq_ok {l : Load Float} (h : measure Float r m = .ok l) :
    Target.isUsable m.weight = true ∧ ∃ t live, m.target? = .ok t
      ∧ (r.get m.field).live? = some live
      ∧ l = ⟨m.label, m.kind, t.inUnitOf m.kind live, t.value, m.weight⟩ := by
  unfold measure at h
  split at h
  · cases h
  · next hweight =>
    split at h
    · cases h
    · next t htarget =>
      split at h
      · cases h
      · next live hlive =>
        cases h
        exact ⟨by simpa using hweight, t, live, htarget, hlive, rfl⟩

/-- **Complete loads have one for every metric.** -/
theorem exists_of_isComplete {specs : List MetricSpec}
    (hcomplete : (ofReadings Float specs r).isComplete = true) (hm : m ∈ specs) :
    ∃ l ∈ (ofReadings Float specs r).scored, measure Float r m = .ok l := by
  have hall := List.filterMap_length_eq_length.mp (beq_iff_eq.mp hcomplete)
  have hmem : (m.label, measure Float r m) ∈ (ofReadings Float specs r).outcomes :=
    List.mem_map_of_mem hm
  have hsome := hall _ hmem
  cases hmeasure : measure Float r m with
  | error cause =>
    rw [hmeasure] at hsome
    cases hsome
  | ok l => exact ⟨l, List.mem_filterMap.mpr ⟨_, hmem, by rw [hmeasure]⟩, rfl⟩

/-- **A load is no number exactly if the reading is none.** -/
theorem isNaN_ratio {t : Target} (ht : Target.isUsable t.value = true) (kind : MetricKind)
    (label : String) (live weight : Float) :
    (Load.ratio ⟨label, kind, t.inUnitOf kind live, t.value, weight⟩ : Float).isNaN
      = live.isNaN := by
  obtain ⟨hfinite, hpos⟩ := Bool.and_eq_true_iff.mp ht
  have hratio : (Load.ratio ⟨label, kind, t.inUnitOf kind live, t.value, weight⟩ : Float)
      = t.inUnitOf kind live / t.value := rfl
  rw [hratio, Double.isNaN_div _ (of_decide_eq_true hpos) hfinite]
  have hscale (k : MetricKind) : 0.0 < Target.fractionScale k
      ∧ (Target.fractionScale k).isFinite = true := by
    cases k <;> decide +kernel
  unfold Target.inUnitOf
  cases t.form with
  | fraction => exact Double.isNaN_mul _ (hscale kind).1 (hscale kind).2
  | absolute => rfl
  | duration => rfl

end Loads

/-! ## The ways down -/

/-- A driver below the band is below its lower edge, and the loads are complete. -/
theorem Band.of_side_eq_below {b : Band Float} {complete : Bool} {driver : Float}
    (h : b.side complete driver = .below) : complete = true ∧ driver < b.lower := by
  unfold side at h
  split at h
  · cases h
  · split at h
    · next hbelow =>
      obtain ⟨hcomplete, hless⟩ := Bool.and_eq_true_iff.mp hbelow
      exact ⟨hcomplete, of_decide_eq_true hless⟩
    · cases h

section

variable {e : EngineSettings} {t : TierSettings} {current : UInt32}

/-- **Only below the band fewer replicas are asked for.** Above it, the driver is above one, so the
product with it is not less than the live count. -/
theorem Band.le_rawTarget {tolerance driver : Float} (htolerance : 0.0 ≤ tolerance)
    {complete : Bool} (hside : (around tolerance).side complete driver ≠ .below) :
    current ≤ ((around tolerance).side complete driver).rawTarget current driver := by
  unfold side at hside ⊢
  split
  · next habove =>
    have hreaches : Double.Reaches driver (2 ^ 52) (-52) :=
      (Double.reaches_one_add htolerance).of_lt (of_decide_eq_true habove)
    show current ≤ proportional (if current < 1 then 1 else current) driver
    split
    · next hzero =>
      exact UInt32.le_trans (UInt32.le_of_lt hzero) (le_proportional (by decide) hreaches)
    · next hone =>
      exact le_proportional (UInt32.le_iff_toNat_le.mp (UInt32.not_lt.mp hone)) hreaches
  · next habove =>
    rw [if_neg habove] at hside
    split
    · next hbelow => exact absurd (if_pos hbelow) hside
    · exact UInt32.le_refl _

/-- **A tier within its bounds is to shrink only if its loads are complete and the greatest of them
is below the band.** -/
theorem Loads.below_of_target_lt {l : Loads Float} (heager : e.trigger = .eagerUp)
    (htolerance : 0.0 ≤ e.tolerance) (hleast : t.least ≤ current) (hmost : current ≤ t.most)
    (hlt : l.target e t current < current) :
    l.isComplete = true ∧ l.worst < 1.0 - e.tolerance := by
  have hstay : t.clamp current = current := TierSettings.clamp_eq_self_iff.mpr ⟨hleast, hmost⟩
  unfold target demand? at hlt
  cases hc : l.composite with
  | none =>
    rw [hc, Option.map_none, hstay] at hlt
    exact absurd hlt (UInt32.lt_irrefl _)
  | some composite =>
    rw [hc, Option.map_some, heager] at hlt
    have hlower : (Band.around e.tolerance : Band Float).lower = 1.0 - e.tolerance := rfl
    by_contra hnot
    have hside : (Band.around e.tolerance).side l.isComplete l.worst ≠ .below := fun hbelow => by
      rw [← hlower] at hnot
      exact hnot (Band.of_side_eq_below hbelow)
    exact absurd (TierSettings.le_clamp hmost (Band.le_rawTarget htolerance hside))
      (UInt32.not_le.mpr hlt)

/-- If the greatest load is below a bound, so is every load that is a number. -/
theorem Loads.of_worst_lt {l : Loads Float} {b : Float} (h : l.worst < b) {s : Load Float}
    (hs : s ∈ l.scored) : s.ratio.isNaN = true ∨ s.ratio < b := by
  have hworst : l.worst = (l.scored.map Load.ratio).foldl Scalar.greater (-1.0 / 0.0) := rfl
  have hleast : (-1.0 / 0.0 : Float).isNaN = false := by decide +kernel
  rw [hworst, Scalar.foldl_greater_lt_iff hleast] at h
  exact h.2 _ (List.mem_map_of_mem hs)

/-- The engine lets a tier shrink only if the loads ask for fewer replicas. -/
theorem Proposal.target_lt_of_scaleDown {r : Readings} {h : History} {now : UInt64}
    (hdown : (propose e t current r h now).action = .scaleDown) :
    (Loads.ofReadings Float t.metrics r).target e t current < current := by
  unfold propose at hdown
  split at hdown
  · cases hdown
  · rw [action_ofLoads] at hdown
    exact Action.between_eq_scaleDown.mp hdown

end

/-- **Removing replicas is conservative, but for readings that are no number.** Under `eagerUp`,
whatever is read and remembered, if a tier within its bounds is to lose replicas, every configured
metric has a usable weight, a target and a live value, and its load is below the band, unless that
value is no number. So all loads are below the band exactly if no live value of a configured metric
is no number. -/
theorem scaleDown_conservative {e : EngineSettings} (heager : e.trigger = .eagerUp)
    (htolerance : 0.0 ≤ e.tolerance) {t : TierSettings} {current : UInt32}
    (hleast : t.least ≤ current) (hmost : current ≤ t.most) (r : Readings) (h : History)
    (now : UInt64) (hdown : (Proposal.propose e t current r h now).action = .scaleDown) :
    let Scored := fun (m : MetricSpec) (live : Float) (l : Load Float) =>
      Target.isUsable m.weight = true ∧ (∃ target, m.target? = .ok target)
        ∧ (r.get m.field).live? = some live ∧ Loads.measure Float r m = .ok l
    (∀ m ∈ t.metrics, ∃ live l, Scored m live l
        ∧ (live.isNaN = true ∨ l.ratio < 1.0 - e.tolerance))
      ∧ ((∀ m ∈ t.metrics, ∃ live l, Scored m live l ∧ l.ratio < 1.0 - e.tolerance)
        ↔ ∀ m ∈ t.metrics, ∀ live, (r.get m.field).live? = some live → live.isNaN = false) := by
  intro Scored
  obtain ⟨hcomplete, hworst⟩ := Loads.below_of_target_lt heager htolerance hleast hmost
    (Proposal.target_lt_of_scaleDown hdown)
  have hscored (m : MetricSpec) (hm : m ∈ t.metrics) : ∃ live l, Scored m live l
      ∧ l.ratio.isNaN = live.isNaN ∧ (live.isNaN = true ∨ l.ratio < 1.0 - e.tolerance) := by
    obtain ⟨l, hmem, hmeasure⟩ := Loads.exists_of_isComplete hcomplete hm
    obtain ⟨hweight, target, live, htarget, hlive, rfl⟩ := Loads.measure_eq_ok hmeasure
    have hnan := Loads.isNaN_ratio (MetricSpec.isUsable_target htarget) m.kind m.label live m.weight
    refine ⟨live, _, ⟨hweight, ⟨target, htarget⟩, hlive, hmeasure⟩, hnan, ?_⟩
    rw [← hnan]
    exact Loads.of_worst_lt hworst hmem
  refine ⟨fun m hm => ?_, fun hall m hm value hvalue => ?_, fun hnumbers m hm => ?_⟩
  · obtain ⟨live, l, hs, -, hbelow⟩ := hscored m hm
    exact ⟨live, l, hs, hbelow⟩
  · -- what is no number is not below anything
    obtain ⟨live, l, hs, hnan, -⟩ := hscored m hm
    obtain ⟨_, l', hs', hbelow⟩ := hall m hm
    obtain rfl : value = live := Option.some.inj (hvalue.symm.trans hs.2.2.1)
    obtain rfl : l = l' := Except.ok.inj (hs.2.2.2.symm.trans hs'.2.2.2)
    rw [← hnan]
    exact (Double.lt_iff.mp hbelow).1
  · obtain ⟨live, l, hs, -, hbelow⟩ := hscored m hm
    have hnumber := hnumbers m hm live hs.2.2.1
    exact ⟨live, l, hs, hbelow.resolve_left (ne_of_eq_of_ne hnumber Bool.false_ne_true)⟩

/-- One of four replicas is removed when processors are at 50 of 70 and memory at 40 percent of 80,
and both loads are below the band. -/
theorem scaleDown_conservative_idle :
    let t : TierSettings := ⟨1, 9, [.ofKind .cpu "70", .ofKind .memory "80%"], .usual⟩
    let r : Readings := { Readings.absent with cpu := .ofLive 50.0, memory := .ofLive 40.0 }
    let d := Proposal.propose .usual t 4 r (.empty 64) 0
    d.action = .scaleDown ∧ d.target = 3
      ∧ ∀ m ∈ t.metrics, ∃ l, Loads.measure Float r m = .ok l
        ∧ l.ratio < 1.0 - EngineSettings.usual.tolerance := by
  intro t r d
  have hdown : d.action = .scaleDown := by decide +kernel
  obtain ⟨-, hall⟩ := scaleDown_conservative (e := .usual) rfl (by decide +kernel) (t := t)
    (by decide) (by decide) r (.empty 64) 0 hdown
  have hnumbers : ∀ m ∈ t.metrics, ∀ live, (r.get m.field).live? = some live →
      live.isNaN = false := by
    intro m hm live hlive
    rcases List.mem_pair.mp hm with rfl | rfl
    · obtain rfl : 50.0 = live := Option.some.inj hlive
      decide +kernel
    · obtain rfl : 40.0 = live := Option.some.inj hlive
      decide +kernel
  refine ⟨hdown, by decide +kernel, fun m hm => ?_⟩
  obtain ⟨live, l, hscored, hlt⟩ := hall.mpr hnumbers m hm
  exact ⟨l, hscored.2.2.2, hlt⟩

/-- The only metric of a tier reads what is no number. It is scored and its load is not below the
band, and the tier is reduced from four replicas to its least count. -/
theorem scaleDown_unread :
    let m : MetricSpec := .ofKind .cpu "70"
    let t : TierSettings := ⟨1, 9, [m], .usual⟩
    let r : Readings := { Readings.absent with cpu := .ofLive Float.nan }
    let d := Proposal.propose .usual t 4 r (.empty 64) 0
    EngineSettings.usual.trigger = .eagerUp ∧ 0.0 ≤ EngineSettings.usual.tolerance
      ∧ EngineSettings.usual.tolerance < 1.0 ∧ d.action = .scaleDown ∧ d.target = 1
      ∧ ∃ l, Loads.measure Float r m = .ok l
        ∧ ¬ l.ratio < 1.0 - EngineSettings.usual.tolerance := by
  intro m t r d
  have hcomplete : (Loads.ofReadings Float t.metrics r).isComplete = true := by decide +kernel
  obtain ⟨l, -, hmeasure⟩ :=
    Loads.exists_of_isComplete hcomplete (m := m) (List.mem_singleton.mpr rfl)
  have hnan : l.ratio.isNaN = true := by
    obtain ⟨-, target, live, htarget, hlive, rfl⟩ := Loads.measure_eq_ok hmeasure
    obtain rfl : Float.nan = live := Option.some.inj hlive
    rw [Loads.isNaN_ratio (MetricSpec.isUsable_target htarget)]
    decide +kernel
  refine ⟨rfl, by decide +kernel, by decide +kernel, by decide +kernel, by decide +kernel, l,
    hmeasure, fun hlt => ?_⟩
  rw [(Double.lt_iff.mp hlt).1] at hnan
  cases hnan

end ClusterScaling
