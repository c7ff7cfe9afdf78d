import ClusterScaling.Proofs.Quorum.Contract

/-!
# Asking for fewer primaries never gives more

Two candidates at the same live count are rounded by different rules if
the count lies between them: the lower one is rounded down, for with it
the tier shrinks, and the higher one is rounded up. The order of the
candidates survives this, because the only candidate that is rounded past
the next one is an even one that is rounded up, and a candidate above it
is rounded up as well (`OddRange.nearest_mono`). At the ceiling, where
there is no room to round up, both fall back on the greatest odd count in
range.

The question of the guard is about the rounded count, and a greater
removal leaves fewer healthy primaries. So the vetoed candidates are those
below some count, and none of them can be saved by asking for even fewer
(`OddRange.guard_mono`).
-/

namespace ClusterScaling

namespace OddRange

variable {r : OddRange}

/-- **Rounding keeps the order of candidates**, if with the greater one the tier does not shrink
unless it does with the lower one. -/
theorem nearest_mono {m n : Nat} {d e : Action} (hle : m ≤ n)
    (hturn : d ≠ .scaleDown → e ≠ .scaleDown) : r.nearest m d ≤ r.nearest n e := by
  have hmem := r.nearest_mem m d
  have hodd := r.odd_nearest m d
  by_cases hpassed : r.nearest m d ≤ n
  · exact r.le_nearest_of_odd hodd hmem.2 hpassed e
  by_cases hlowest : r.nearest m d ≤ r.lowest
  · exact Nat.le_trans hlowest (r.nearest_mem n e).1
  -- the lower candidate is in range and rounded up past the greater one, so they are the same
  have hbelow : r.lowest ≤ m := by
    refine Nat.le_of_not_lt fun hlt => hlowest ?_
    exact r.nearest_le_of_odd r.odd_lowest (Nat.le_refl _) (Nat.le_of_lt hlt) d
  have hnear := (r.nearest_near hbelow (by omega) d).1
  have hup : d ≠ .scaleDown := by
    rintro rfl
    have := r.nearest_le hbelow
    omega
  have hgrows := r.le_nearest (n := n) (hturn hup) (by omega)
  have hodd' := r.odd_nearest n e
  omega

/-- **The guard aims no lower for a greater candidate.** -/
theorem aim_mono {a b : UInt32} (hle : a ≤ b) (current : UInt32) :
    r.aim current a ≤ r.aim current b :=
  nearest_mono (UInt32.le_iff_toNat_le.mp hle) (Action.between_ne_scaleDown_of_le hle)

/-- **Asking for fewer primaries neither gives more nor gets past a veto.** Whatever the bounds, the
floor of the quorum, the live count and the health of the primaries: of two candidates that the
guard lets pass the lower one gets no more than the higher one, and if it vetoes the higher one it
vetoes the lower one. -/
theorem guard_mono (least most minHealthy current : UInt32) (state : QuorumState) {a b : UInt32}
    (hle : a ≤ b) :
    let r := OddRange.ofBounds least most minHealthy
    let lower := r.guard current a state
    let higher := r.guard current b state
    (lower.verdict ≠ .vetoed → higher.verdict ≠ .vetoed → lower.count ≤ higher.count)
      ∧ (higher.verdict = .vetoed → lower.verdict = .vetoed) := by
  intro r lower higher
  have haim : r.aim current a ≤ r.aim current b := aim_mono hle current
  refine ⟨fun hlower hhigher => ?_, fun hveto => ?_⟩
  · rw [UInt32.le_iff_toNat_le, toNat_count_of_not_vetoed hlower,
      toNat_count_of_not_vetoed hhigher]
    exact haim
  · obtain ⟨hbroken, hbreak⟩ := verdict_eq_vetoed_iff.mp hveto
    exact verdict_eq_vetoed_iff.mpr ⟨hbroken.mono haim, hbreak⟩

/-- Of six primaries, all of them healthy, four are rounded down and six are rounded up. If five have
to stay healthy, neither four nor one gets past the guard. -/
theorem guard_mono_six :
    let r := OddRange.ofBounds 3 9 3
    let lenient : QuorumState := ⟨6, 3, false⟩
    let strict : QuorumState := ⟨6, 5, false⟩
    (4 : UInt32) ≤ 6 ∧ (1 : UInt32) ≤ 4
      ∧ (r.guard 6 4 lenient).verdict = .adjusted ∧ (r.guard 6 6 lenient).verdict = .adjusted
      ∧ (r.guard 6 4 lenient).count = 3 ∧ (r.guard 6 6 lenient).count = 7
      ∧ (r.guard 6 4 lenient).count ≤ (r.guard 6 6 lenient).count
      ∧ (r.guard 6 4 strict).verdict = .vetoed ∧ (r.guard 6 1 strict).verdict = .vetoed := by
  intro r lenient strict
  have hfour : (r.guard 6 4 lenient).verdict = .adjusted := by decide
  have hsix : (r.guard 6 6 lenient).verdict = .adjusted := by decide
  have hveto : (r.guard 6 4 strict).verdict = .vetoed := by decide
  refine ⟨by decide, by decide, hfour, hsix, by decide, by decide, ?_, hveto, ?_⟩
  · exact (guard_mono 3 9 3 6 lenient (by decide)).1 (by rw [hfour]; decide) (by rw [hsix]; decide)
  · exact (guard_mono 3 9 3 6 strict (by decide)).2 hveto

end OddRange

end ClusterScaling
