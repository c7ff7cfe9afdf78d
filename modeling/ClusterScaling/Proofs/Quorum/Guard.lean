import ClusterScaling.Quorum
import ClusterScaling.Settings.Validity

/-!
# What the quorum guard lets through

The guard has two ways to answer. It vetoes, and then it names the live
count, whatever that is. Or it lets the tier move, and then the count that
it names is **permitted**: odd, in range, and, unless the owner allows
breaks, leaving enough healthy primaries. There is no third way, so
whoever knows that a verdict is no veto knows all of this about the count
(`OddRange.guard_cases`).
-/

namespace ClusterScaling

namespace OddRange

/-- What holds of a count to which the guard lets a tier move. -/
structure Permits (r : OddRange) (state : QuorumState) (current count : UInt32) : Prop where
  /-- The count is odd. -/
  odd : count.toNat % 2 = 1
  /-- The count is not below the range. -/
  lowest_le : r.lowest ≤ count.toNat
  /-- The count is not above the range. -/
  le_highest : count.toNat ≤ r.highest
  /-- A removal leaves enough healthy primaries, unless it may break the quorum. -/
  enough : count < current → state.allowBreak = false →
    (state.minHealthy.toNat : Int) ≤ state.healthy.toNat - (current.toNat - count.toNat)

/-- Nothing speaks against a count exactly if it removes nobody or leaves enough. -/
theorem shortage?_eq_none {state : QuorumState} {current allowed : Nat} :
    shortage? state current allowed = none
      ↔ (allowed < current →
        (state.minHealthy.toNat : Int) ≤ state.healthy.toNat - (current - allowed)) := by
  unfold shortage?
  dsimp only
  split
  · next h =>
    simp only [reduceCtorEq, false_iff]
    intro hle
    have := hle h.1
    omega
  · next h =>
    simp only [true_iff]
    intro hlt
    have := not_and.mp h hlt
    omega

/-- A nearest odd count against which nothing speaks is permitted. -/
theorem permits_nearest (r : OddRange) {state : QuorumState} {current count : UInt32}
    {candidate : Nat} {direction : Action} (hc : count.toNat = r.nearest candidate direction)
    (hs : shortage? state current.toNat count.toNat = none ∨ state.allowBreak = true) :
    r.Permits state current count where
  odd := hc ▸ r.odd_nearest candidate direction
  lowest_le := hc ▸ (r.nearest_mem candidate direction).1
  le_highest := hc ▸ (r.nearest_mem candidate direction).2
  enough := by
    intro hlt hbreak
    rcases hs with hs | hs
    · exact shortage?_eq_none.mp hs (UInt32.lt_iff_toNat_lt.mp hlt)
    · rw [hbreak] at hs
      cases hs

/-- **The guard vetoes and names the live count, or names a permitted one.** -/
theorem guard_cases (r : OddRange) (current candidate : UInt32) (state : QuorumState) :
    ((r.guard current candidate state).verdict = .vetoed
        ∧ (r.guard current candidate state).count = current)
      ∨ ((r.guard current candidate state).verdict ≠ .vetoed
        ∧ r.Permits state current (r.guard current candidate state).count) := by
  have hmem := r.nearest_mem candidate.toNat (.between current candidate)
  have hround : (UInt32.ofNat (r.nearest candidate.toNat (.between current candidate))).toNat
      = r.nearest candidate.toNat (.between current candidate) :=
    UInt32.toNat_ofNat_of_lt' (Nat.lt_of_le_of_lt hmem.2 r.highest_lt)
  unfold guard
  dsimp only
  -- a shortage is a veto unless the owner allows it; else the count is the nearest odd one
  split
  · split
    · next hbreak => exact .inr ⟨nofun, r.permits_nearest hround (.inr hbreak)⟩
    · exact .inl ⟨rfl, rfl⟩
  · next hnone =>
    split
    · next heq => exact .inr ⟨nofun, r.permits_nearest heq.symm (.inl (heq ▸ hnone))⟩
    · exact .inr ⟨nofun, r.permits_nearest hround (.inl (hround.symm ▸ hnone))⟩

/-- **A quorum that passes its check has a range between the floor and the bounds.** -/
theorem ofBounds_mem {t : TierSettings} {q : QuorumSettings} (hq : q.check t = .ok ()) :
    primariesFloor t q ≤ (ofBounds t.least t.most q.minHealthy).lowest
      ∧ (ofBounds t.least t.most q.minHealthy).highest ≤ t.most.toNat := by
  rw [QuorumSettings.check_eq_ok] at hq
  unfold oddFrom at hq
  unfold ofBounds
  dsimp only
  unfold primariesFloor at hq ⊢
  grind

end OddRange

end ClusterScaling
