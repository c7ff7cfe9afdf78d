import ClusterScaling.Proofs.Quorum.Contract

/-!
# The check of the quorum and its guard agree

Whether the bounds of the primaries leave room for an odd count is asked
twice. The check asks it of the settings, and refuses them if there is no
room. The guard asks it once more when it is built, because it has to
answer in any case, and lets the floor win over the ceiling. The two
compute the least odd count on different grounds, the guard with a floor
of at least one; it is the same count (`OddRange.lowest_ofBounds`), since
zero is even.

So the check passes exactly if the guard keeps to the bounds, and if it
does not pass, the guard never keeps to them
(`QuorumSettings.check_iff_guarded`): there is no setting with which it
answers now within the bounds and now above them.
-/

namespace ClusterScaling

namespace OddRange

/-- **The range begins with the least odd count from the floor on**, as the check computes it. -/
theorem lowest_ofBounds (least most minHealthy : UInt32) :
    (ofBounds least most minHealthy).lowest = oddFrom (max least.toNat minHealthy.toNat) := by
  unfold ofBounds oddFrom
  grind

variable {r : OddRange} {current candidate : UInt32} {state : QuorumState}

/-- Unless it vetoes, the guard answers with a count in its range. -/
theorem count_mem_of_not_vetoed (hpass : (r.guard current candidate state).verdict ≠ .vetoed) :
    r.lowest ≤ (r.guard current candidate state).count.toNat
      ∧ (r.guard current candidate state).count.toNat ≤ r.highest := by
  rw [toNat_count_of_not_vetoed hpass]
  exact r.nearest_mem _ _

/-- Of a tier without replicas nothing can be removed, so the guard does not veto. -/
theorem not_vetoed_zero (r : OddRange) (candidate : UInt32) (state : QuorumState) :
    (r.guard 0 candidate state).verdict ≠ .vetoed := by
  intro hveto
  obtain ⟨⟨hremoved, -⟩, -⟩ := verdict_eq_vetoed_iff.mp hveto
  exact Nat.not_lt_zero _ hremoved

end OddRange

namespace QuorumSettings

/-- **The check of the quorum passes exactly if the guard keeps to the bounds.** Whatever the bounds
of the primaries and the floor of the quorum, these are the same: the check passes; there is an odd
count between the floors and the ceiling; and every answer of the guard that is no veto is within
the bounds. If it is not so, every answer of the guard that is no veto is above the ceiling. -/
theorem check_iff_guarded (t : TierSettings) (q : QuorumSettings) :
    let r := OddRange.ofBounds t.least t.most q.minHealthy
    let Room := ∃ n, n % 2 = 1 ∧ max t.least.toNat q.minHealthy.toNat ≤ n ∧ n ≤ t.most.toNat
    let Answers := fun Within : UInt32 → Prop => ∀ current candidate state,
      (r.guard current candidate state).verdict ≠ .vetoed →
        Within (r.guard current candidate state).count
    (q.check t = .ok () ↔ Room)
      ∧ (Room ↔ Answers fun count => t.least ≤ count ∧ count ≤ t.most)
      ∧ (¬ Room → Answers fun count => t.most < count) := by
  intro r Room Answers
  have hcheck : q.check t = .ok () ↔ Room := by
    rw [check_eq_ok, oddFrom_le_iff]
    rfl
  have habove (hnone : ¬ Room) : Answers fun count => t.most < count := by
    intro current candidate state hpass
    have hcount := (OddRange.count_mem_of_not_vetoed hpass).1
    rw [← hcheck, check_eq_ok, Nat.not_le] at hnone
    rw [OddRange.lowest_ofBounds] at hcount
    exact UInt32.lt_iff_toNat_lt.mpr (Nat.lt_of_lt_of_le hnone hcount)
  refine ⟨hcheck, ⟨fun hroom current candidate state hpass => ?_, fun hwithin => ?_⟩, habove⟩
  · obtain ⟨hlowest, hhighest⟩ := OddRange.ofBounds_mem (hcheck.mpr hroom)
    obtain ⟨hfrom, hto⟩ := OddRange.count_mem_of_not_vetoed hpass
    have hleast : t.least.toNat ≤ r.lowest := Nat.le_trans (Nat.le_max_left _ _) hlowest
    rw [UInt32.le_iff_toNat_le, UInt32.le_iff_toNat_le]
    exact ⟨Nat.le_trans hleast hfrom, Nat.le_trans hto hhighest⟩
  · -- the guard does answer, if only for a tier without replicas
    refine Classical.byContradiction fun hnone => ?_
    have hpass := r.not_vetoed_zero 0 ⟨0, 0, false⟩
    exact absurd (hwithin _ _ _ hpass).2 (UInt32.not_le.mpr (habove hnone _ _ _ hpass))

end QuorumSettings

end ClusterScaling
