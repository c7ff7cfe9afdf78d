import Mathlib.Algebra.Order.BigOperators.Group.List
import ClusterScaling.Proofs.Cycle.Landing
import ClusterScaling.Proofs.Double.Exact
import ClusterScaling.Proofs.Proposal.Conservative

/-!
# More load never asks for fewer replicas

The definitions by which a target is computed do not depend on what the
numbers are, so they can be read over exact fractions
(`Proposal.targetOver`), and over those the target grows with the load.

There are three ways to a count, and a greater load can change the way.
What holds them together is where the counts lie: below the band at most
the live count is asked for, since the driver is at most one, within the
band just that, and above it at least that, since the slack is less than a
replica (`Band.rawTarget_mono`). Within one way the count is a product with
the live count, less the slack, rounded up, and each of these steps keeps
the order. A tier at zero counts as one, but only above the band.

That the drivers are in order is due to their metrics. The same metrics
are scored, each with a greater load under the same positive weight, so the
worst load and the mean load are both greater (`Loads.driver_mono`).
-/

namespace ClusterScaling

/-! ## Targets over any numbers -/

/-- The target of a proposal, computed in numbers of a kind. -/
def Proposal.targetOver (α : Type) [Scalar α] (e : EngineSettings) (t : TierSettings)
    (current : UInt32) (r : Readings) (h : History) (now : UInt64) : UInt32 :=
  if e.isCooling h now then current else (Loads.ofReadings α t.metrics r).target e t current

/-- Targets are computed in doubles. -/
theorem Proposal.targetOver_float (e : EngineSettings) (t : TierSettings) (current : UInt32)
    (r : Readings) (h : History) (now : UInt64) :
    targetOver Float e t current r h now = (propose e t current r h now).target := by
  unfold targetOver propose
  split
  · rfl
  · exact (target_ofLoads e t current _ now).symm

/-- Readings of which none is above its counterpart: the same fields are live, and their values are
finite and in order. -/
structure Readings.NotAbove (r r' : Readings) : Prop where
  /-- The same fields are live. -/
  fresh : ∀ f, (r.get f).fresh = (r'.get f).fresh
  /-- Live values are finite. -/
  finite : ∀ f, (r.get f).fresh = true →
    (r.get f).value.isFinite = true ∧ (r'.get f).value.isFinite = true
  /-- Live values are in order. -/
  le : ∀ f, (r.get f).fresh = true → (r.get f).value ≤ (r'.get f).value

/-! ## Loads in order -/

/-- A load that is not above another one, of the same metric. -/
structure Load.NotAbove (l l' : Load ℚ) : Prop where
  /-- The weights are the same. -/
  weight : l.weight = l'.weight
  /-- The weight is positive. -/
  pos : 0 < l.weight
  /-- The loads are in order. -/
  ratio : l.ratio ≤ l'.ratio

theorem Scalar.ofFloat_pos {x : Float} (h : Target.isUsable x = true) :
    0 < (Scalar.ofFloat x : ℚ) := by
  obtain ⟨hfinite, hpos⟩ := Bool.and_eq_true_iff.mp h
  exact Double.toRat_pos (of_decide_eq_true hpos) hfinite

namespace Loads

variable {r r' : Readings}

/-- **A metric has no greater load under readings that are not above others**, and is not scored
under both or for the same cause. -/
theorem measure_notAbove (h : r.NotAbove r') (m : MetricSpec) :
    (∃ cause, measure ℚ r m = .error cause ∧ measure ℚ r' m = .error cause)
      ∨ ∃ l l', measure ℚ r m = .ok l ∧ measure ℚ r' m = .ok l' ∧ l.NotAbove l' := by
  unfold measure
  split
  · exact .inl ⟨_, rfl, rfl⟩
  · next hweight =>
    cases htarget : m.target? with
    | error fault => exact .inl ⟨_, rfl, rfl⟩
    | ok t =>
      have hfresh := h.fresh m.field
      cases hlive : (r.get m.field).fresh with
      | false =>
        rw [hlive] at hfresh
        unfold Reading.live?
        rw [hlive, ← hfresh]
        exact .inl ⟨_, rfl, rfl⟩
      | true =>
        rw [hlive] at hfresh
        unfold Reading.live?
        rw [hlive, ← hfresh]
        refine .inr ⟨_, _, rfl, rfl, rfl, Scalar.ofFloat_pos (by simpa using hweight), ?_⟩
        obtain ⟨hfinite, hfinite'⟩ := h.finite m.field hlive
        have hle : (Scalar.ofFloat (r.get m.field).value : ℚ)
            ≤ Scalar.ofFloat (r'.get m.field).value :=
          (Double.le_iff_toRat hfinite hfinite').mp (h.le m.field hlive)
        have hvalue : 0 < (Scalar.ofFloat t.value : ℚ) :=
          Scalar.ofFloat_pos (MetricSpec.isUsable_target htarget)
        have hscale : 0 ≤ (Scalar.ofFloat (Target.fractionScale m.kind) : ℚ) :=
          (Scalar.ofFloat_pos (by cases m.kind <;> decide +kernel)).le
        refine div_le_div_of_nonneg_right ?_ hvalue.le
        cases t.form with
        | fraction => exact mul_le_mul_of_nonneg_right hle hscale
        | absolute => exact hle
        | duration => exact hle

/-- The same metrics are scored, with loads in order. -/
theorem scored_notAbove (h : r.NotAbove r') (specs : List MetricSpec) :
    List.Forall₂ Load.NotAbove (ofReadings ℚ specs r).scored (ofReadings ℚ specs r').scored := by
  induction specs with
  | nil => exact .nil
  | cons m specs ih =>
    unfold scored ofReadings at ih ⊢
    rw [List.map_cons, List.map_cons]
    rcases measure_notAbove h m with ⟨cause, hm, hm'⟩ | ⟨l, l', hm, hm', hle⟩
    · rw [hm, hm']
      exact ih
    · rw [hm, hm']
      exact .cons hle ih

/-- Over fractions a sum is one in any order. -/
theorem sum_eq (xs : List ℚ) : sum xs = xs.sum := by
  have hzero : (Scalar.ofFloat (-0.0) : ℚ) = 0 := Double.toRat_neg_zero
  rw [sum, hzero, List.sum_eq_foldl]

/-- The mean load over fractions. -/
theorem composite_eq (l : Loads ℚ) : l.composite
    = if (l.scored.map Load.weight).sum ≤ 0 then none
      else some ((l.scored.map fun s => s.ratio * s.weight).sum / (l.scored.map Load.weight).sum)
      := by
  unfold composite weightedMean
  have hweights : (l.scored.map fun s => (s.ratio, s.weight)).map (·.2)
      = l.scored.map Load.weight := List.map_map
  have hproducts : (l.scored.map fun s => (s.ratio, s.weight)).map (fun x => x.1 * x.2)
      = l.scored.map fun s => s.ratio * s.weight := List.map_map
  have hnone : ((l.scored.map fun s => (s.ratio, s.weight)).isEmpty
        || decide ((l.scored.map Load.weight).sum ≤ 0)) = true
      ↔ (l.scored.map Load.weight).sum ≤ 0 := by
    rw [Bool.or_eq_true, decide_eq_true_eq, List.isEmpty_map, List.isEmpty_iff]
    refine or_iff_right_of_imp fun hempty => ?_
    rw [hempty]
    exact le_refl 0
  dsimp only
  rw [hweights, hproducts, sum_eq, sum_eq]
  exact if_congr hnone rfl rfl

/-- The weights have the same sum, and the weighted loads have sums in order. -/
theorem sums_mono {ls ls' : List (Load ℚ)} (h : List.Forall₂ Load.NotAbove ls ls') :
    (ls.map Load.weight).sum = (ls'.map Load.weight).sum
      ∧ (ls.map fun l => l.ratio * l.weight).sum ≤ (ls'.map fun l => l.ratio * l.weight).sum := by
  induction h with
  | nil => exact ⟨rfl, le_refl _⟩
  | cons hle _ ih =>
    rw [List.map_cons, List.map_cons, List.sum_cons, List.sum_cons, List.map_cons, List.map_cons,
      List.sum_cons, List.sum_cons]
    refine ⟨congrArg₂ _ hle.weight ih.1, add_le_add ?_ ih.2⟩
    rw [← hle.weight]
    exact mul_le_mul_of_nonneg_right hle.ratio hle.pos.le

variable {l l' : Loads ℚ} (h : List.Forall₂ Load.NotAbove l.scored l'.scored)

include h

/-- The worst loads are in order. -/
theorem worst_mono : l.worst ≤ l'.worst := by
  have hfoldl {ls ls' : List (Load ℚ)} (hls : List.Forall₂ Load.NotAbove ls ls') :
      ∀ {x y : ℚ}, x ≤ y → (ls.map Load.ratio).foldl max x ≤ (ls'.map Load.ratio).foldl max y := by
    induction hls with
    | nil => exact id
    | cons hle _ ih => exact fun hxy => ih (max_le_max hxy hle.ratio)
  unfold worst
  generalize l.scored = ls at h
  generalize l'.scored = ls' at h
  cases h with
  | nil => exact le_refl _
  | cons hle hrest => exact hfoldl hrest hle.ratio

/-- **The mean loads are in order**, and there is one under both readings or under none. -/
theorem composite_mono : (l.composite = none ∧ l'.composite = none)
    ∨ ∃ c c', l.composite = some c ∧ l'.composite = some c' ∧ c ≤ c' := by
  obtain ⟨htotal, hsum⟩ := sums_mono h
  rw [composite_eq, composite_eq, htotal]
  split
  · exact .inl ⟨rfl, rfl⟩
  · next hpos =>
    exact .inr ⟨_, _, rfl, rfl, div_le_div_of_nonneg_right hsum (not_le.mp hpos).le⟩

end Loads

/-! ## Counts in order -/

section

variable {base current : UInt32} {driver driver' : ℚ}

/-- The count that a driver asks for grows with it. -/
theorem proportional_mono (h : driver ≤ driver') : proportional base driver
    ≤ proportional base driver' :=
  Scalar.countFrom_mono (sub_le_sub_right (mul_le_mul_of_nonneg_left h
    (by rw [Scalar.ofCount_rat]; positivity)) _)

/-- Up to one, a driver asks for at most the live count. -/
theorem proportional_le_of_le_one (h : driver ≤ 1) : proportional base driver ≤ base := by
  rw [UInt32.le_iff_toNat_le, proportional, Scalar.toNat_countFrom]
  refine (min_le_left _ _).trans (Nat.ceil_le.mpr ?_)
  have hbase : (0 : ℚ) ≤ base.toNat := Nat.cast_nonneg _
  calc Scalar.ofCount base * driver - Scalar.ofFloat 1e-9
      ≤ Scalar.ofCount base * driver := sub_le_self _ Scalar.slack_mem.1
    _ = base.toNat * driver := by rw [Scalar.ofCount_rat]
    _ ≤ base.toNat := mul_le_of_le_one_right hbase h

/-- From one on, a driver asks for at least the live count. -/
theorem le_proportional_of_one_le (h : 1 ≤ driver) : base ≤ proportional base driver := by
  rw [UInt32.le_iff_toNat_le, proportional, Scalar.toNat_countFrom]
  refine le_min ?_ (Nat.le_sub_one_of_lt base.toNat_lt_size)
  -- the count of which the base is the next one is passed, in spite of the slack
  cases hbase : base.toNat with
  | zero => exact Nat.zero_le _
  | succ n =>
    refine Nat.succ_le_of_lt (Nat.lt_ceil.mpr ?_)
    have hcount : (Scalar.ofCount base : ℚ) = n + 1 := by
      rw [Scalar.ofCount_rat, hbase, Nat.cast_succ]
    calc (n : ℚ) < n + 1 - Scalar.ofFloat 1e-9 := by linarith [Scalar.slack_mem.2]
      _ ≤ Scalar.ofCount base * driver - Scalar.ofFloat 1e-9 := by
        rw [hcount]
        exact sub_le_sub_right (le_mul_of_one_le_right (by positivity) h) _

variable {tolerance : ℚ} (htolerance : 0 ≤ tolerance) {complete : Bool}

include htolerance

/-- Outside of what is above the band at most the live count is asked for. -/
theorem Band.rawTarget_le (hside : (around tolerance).side complete driver ≠ .above) :
    ((around tolerance).side complete driver).rawTarget current driver ≤ current := by
  cases h : (around tolerance).side complete driver with
  | above => exact absurd h hside
  | within => exact UInt32.le_refl _
  | below =>
    have hlower : driver < Scalar.ofFloat 1.0 - tolerance :=
      of_decide_eq_true (side_eq_below_iff.mp h).2.2
    have hone : (Scalar.ofFloat 1.0 : ℚ) = 1 := Double.toRat_one
    exact proportional_le_of_le_one (by linarith)

/-- Outside of what is below the band at least the live count is asked for. -/
theorem Band.le_rawTarget_rat (hside : (around tolerance).side complete driver ≠ .below) :
    current ≤ ((around tolerance).side complete driver).rawTarget current driver := by
  cases h : (around tolerance).side complete driver with
  | below => exact absurd h hside
  | within => exact UInt32.le_refl _
  | above =>
    have hupper : Scalar.ofFloat 1.0 + tolerance < driver :=
      of_decide_eq_true (side_eq_above_iff.mp h)
    have hone : (Scalar.ofFloat 1.0 : ℚ) = 1 := Double.toRat_one
    refine UInt32.le_trans ?_ (le_proportional_of_one_le (by linarith))
    split
    · next hzero => exact UInt32.le_of_lt hzero
    · exact UInt32.le_refl _

/-- **A greater driver asks for no smaller count**, also if it lies elsewhere. -/
theorem Band.rawTarget_mono (h : driver ≤ driver') :
    ((around tolerance).side complete driver).rawTarget current driver
      ≤ ((around tolerance).side complete driver').rawTarget current driver' := by
  have hup : (around tolerance).side complete driver = .above →
      (around tolerance).side complete driver' = .above := fun hside =>
    side_eq_above_iff.mpr (decide_eq_true ((of_decide_eq_true
      (side_eq_above_iff.mp hside)).trans_le h))
  have hdown : (around tolerance).side complete driver' = .below →
      (around tolerance).side complete driver = .below := fun hside => by
    obtain ⟨habove, hcomplete, hbelow⟩ := side_eq_below_iff.mp hside
    refine side_eq_below_iff.mpr ⟨?_, hcomplete, decide_eq_true (h.trans_lt
      (of_decide_eq_true hbelow))⟩
    exact decide_eq_false fun hlt => of_decide_eq_false habove (hlt.trans_le h)
  by_cases habove : (around tolerance).side complete driver = .above
  · rw [habove, hup habove]
    exact proportional_mono h
  · by_cases hbelow : (around tolerance).side complete driver' = .below
    · rw [hbelow, hdown hbelow]
      exact proportional_mono h
    · exact UInt32.le_trans (rawTarget_le htolerance habove) (le_rawTarget_rat htolerance hbelow)

end

/-- Bounds that are in order keep the order. -/
theorem TierSettings.clamp_mono {t : TierSettings} (horder : t.least ≤ t.most) {m n : UInt32}
    (h : m ≤ n) : t.clamp m ≤ t.clamp n := by
  by_cases hleast : n < t.least
  · rw [clamp, clamp, if_pos hleast, if_pos (UInt32.lt_of_le_of_lt h hleast)]
    exact UInt32.le_refl _
  · by_cases hmost : t.most < n
    · have hn : t.clamp n = t.most := by rw [clamp, if_neg hleast, if_pos hmost]
      rw [hn]
      exact (clamp_mem horder m).2
    · rw [clamp_eq_self_iff.mpr ⟨UInt32.not_lt.mp hleast, UInt32.not_lt.mp hmost⟩]
      exact clamp_le (UInt32.not_lt.mp hleast) h

/-! ## Targets in order -/

/-- The drivers are in order. -/
theorem Loads.driver_mono {l l' : Loads ℚ} (h : List.Forall₂ Load.NotAbove l.scored l'.scored)
    (p : TriggerPolicy) {c c' : ℚ} (hc : c ≤ c') : p.driver l c ≤ p.driver l' c' := by
  cases p with
  | eagerUp => exact worst_mono h
  | composite => exact hc

/-- **More load never asks for fewer replicas.** -/
theorem Proposal.targetOver_mono (e : EngineSettings) (htolerance : 0.0 ≤ e.tolerance)
    {t : TierSettings} (horder : t.least ≤ t.most) (current : UInt32) (h : History) (now : UInt64)
    {r r' : Readings} (hle : r.NotAbove r') :
    Proposal.targetOver ℚ e t current r h now ≤ Proposal.targetOver ℚ e t current r' h now := by
  unfold Proposal.targetOver
  split
  · exact UInt32.le_refl _
  · have hscored := Loads.scored_notAbove hle t.metrics
    have hcomplete : (Loads.ofReadings ℚ t.metrics r).isComplete
        = (Loads.ofReadings ℚ t.metrics r').isComplete := by
      unfold Loads.isComplete
      rw [hscored.length_eq, Loads.configured_ofReadings, Loads.configured_ofReadings]
    unfold Loads.target Loads.demand?
    rcases Loads.composite_mono hscored with ⟨hnone, hnone'⟩ | ⟨c, c', hsome, hsome', hc⟩
    · rw [hnone, hnone']
      exact UInt32.le_refl _
    · rw [hsome, hsome', hcomplete]
      exact TierSettings.clamp_mono horder (Band.rawTarget_mono (Double.toRat_nonneg htolerance)
        (Loads.driver_mono hscored e.trigger hc))

/-- Readings of the processor only. -/
def Readings.ofCpu (x : Float) : Readings := { Readings.absent with cpu := .ofLive x }

theorem Readings.notAbove_ofCpu {x y : Float} (hx : x.isFinite = true) (hy : y.isFinite = true)
    (h : x ≤ y) : (ofCpu x).NotAbove (ofCpu y) := by
  refine ⟨fun f => ?_, fun f hfresh => ?_, fun f hfresh => ?_⟩ <;> cases f
  case refine_1.custom => rfl
  case refine_2.cpu => exact ⟨hx, hy⟩
  case refine_3.cpu => exact h
  all_goals first | rfl | cases hfresh

/-- A tier of three replicas that becomes one of two at half its load becomes one of six at twice
its load. -/
theorem Proposal.targetOver_mono_ofCpu :
    let t : TierSettings := ⟨1, 9, [.ofKind .cpu "70"], .usual⟩
    let target (x : Float) :=
      Proposal.targetOver ℚ .usual t 3 (Readings.ofCpu x) (.empty 4) 0
    0.0 ≤ EngineSettings.usual.tolerance ∧ t.least ≤ t.most
      ∧ (Readings.ofCpu 35.0).NotAbove (.ofCpu 140.0)
      ∧ target 35.0 = 2 ∧ target 140.0 = 6 ∧ target 35.0 ≤ target 140.0 := by
  intro t target
  have hle : (Readings.ofCpu 35.0).NotAbove (.ofCpu 140.0) :=
    Readings.notAbove_ofCpu (by decide +kernel) (by decide +kernel) (by decide +kernel)
  exact ⟨by decide +kernel, by decide, hle, by decide +kernel, by decide +kernel,
    targetOver_mono .usual (by decide +kernel) (by decide) 3 (.empty 4) 0 hle⟩

end ClusterScaling
