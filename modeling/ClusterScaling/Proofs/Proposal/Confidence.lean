import ClusterScaling.Proofs.Double.Quotient
import ClusterScaling.Proposal

/-!
# The confidence of a proposal is a proper fraction

The engine's confidence is a product of two numbers, moved into the
interval from zero to one. Moving does not help what is no number, so all
depends on the product being one. Neither factor is harmless by itself:
the mean load, its distance from one and the scale of severity may all be
infinite or no number. Two facts keep the product a number.

* The severity is made to be a number by its cap: what is no number counts
  as one. It may be the negative infinity if the scale is negative.
* The available part of the metrics is positive and finite, because a
  proposal that has a confidence to state has a scored metric. A zero times
  an infinity would be no number.

So the order of the cap, the product and the clamp matters: with the cap
behind the product, a mean load that is no number would go through.
-/

namespace ClusterScaling

namespace Double

/-- A proper fraction: a number from zero to one. -/
def IsFraction (x : Float) : Prop := x.isNaN = false ∧ 0.0 ≤ x ∧ x ≤ 1.0

theorem isFraction_zero : IsFraction 0.0 :=
  ⟨by decide +kernel, by decide +kernel, by decide +kernel⟩

/-- **A number is moved into the interval from zero to one.** -/
theorem isFraction_unitClamp {x : Float} (hx : x.isNaN = false) : IsFraction (unitClamp x) := by
  have hzero : (0.0 : Float).isNaN = false := by decide +kernel
  have hone : (1.0 : Float).isNaN = false := by decide +kernel
  unfold unitClamp
  split
  · exact isFraction_zero
  · next hlow =>
    split
    · exact ⟨hone, by decide +kernel, by decide +kernel⟩
    · next hhigh =>
      rw [lt_iff, not_and, not_and, not_lt] at hlow hhigh
      exact ⟨hx, le_iff.mpr ⟨hzero, hx, hlow hx hzero⟩, le_iff.mpr ⟨hx, hone, hhigh hone hx⟩⟩

/-- **What is capped is a number**, whatever it has been before. -/
theorem isNaN_atMostOne (x : Float) : (atMostOne x).isNaN = false := by
  unfold atMostOne
  split
  · next hlt => exact (lt_iff.mp hlt).1
  · decide +kernel

end Double

namespace Loads

variable {l : Loads Float}

/-- Where there is something to ask for, some metric is scored. -/
theorem scored_ne_nil {e : EngineSettings} {current : UInt32} {d : Demand Float}
    (h : l.demand? e current = some d) : l.scored ≠ [] := by
  intro hnil
  have hcomposite : l.composite = none := by
    unfold composite
    rw [hnil]
    rfl
  unfold demand? at h
  rw [hcomposite] at h
  cases h

/-- **The available part of the metrics is positive and finite** as soon as one is scored. -/
theorem availability_pos (hscored : l.scored ≠ []) (hsize : l.configured < UInt64.size) :
    0.0 < l.availability ∧ l.availability.isFinite = true := by
  have hpos : 0 < l.scored.length := List.length_pos_iff.mpr hscored
  have hle : l.scored.length ≤ l.configured := List.length_filterMap_le _ _
  unfold availability
  rw [if_neg (by omega)]
  exact Double.div_toFloat hpos (by omega) (by omega) hsize

end Loads

namespace Proposal

variable (e : EngineSettings) {t : TierSettings} (current : UInt32)

/-- What the loads of a tier ask for is proposed with a confidence that is a proper fraction. -/
theorem isFraction_ofLoads {l : Loads Float} (hsize : l.configured < UInt64.size) (now : UInt64) :
    Double.IsFraction (ofLoads e t current l now).confidence := by
  unfold ofLoads
  cases hdemand : l.demand? e current with
  | none => exact Double.isFraction_zero
  | some d =>
    obtain ⟨hpos, hfinite⟩ := Loads.availability_pos (Loads.scored_ne_nil hdemand) hsize
    refine Double.isFraction_unitClamp ?_
    rw [Double.isNaN_mul_left _ hpos hfinite]
    exact Double.isNaN_atMostOne _

/-- **The engine's confidence is a proper fraction**, for all settings of the engine, all readings
and all histories. The metrics of a tier are as many as can be counted in 64 bits. -/
theorem isFraction_propose (hsize : t.metrics.length < UInt64.size) (r : Readings) (h : History)
    (now : UInt64) : Double.IsFraction (propose e t current r h now).confidence := by
  unfold propose
  split
  · exact Double.isFraction_zero
  · exact isFraction_ofLoads e current (by rwa [Loads.configured_ofReadings]) now

end Proposal

end ClusterScaling
