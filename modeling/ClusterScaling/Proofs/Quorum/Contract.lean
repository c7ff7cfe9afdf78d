import ClusterScaling.Proofs.Quorum.Guard

/-!
# The contract of the guard

The guard does two things to a candidate. It rounds it to an odd count in
range, and it asks whether a move to that count leaves enough healthy
primaries. Whatever is asked of the guard as a whole follows from what
each of the two does.

Of rounding, it is enough to know that no odd count in range lies between
a candidate and its nearest odd count (`OddRange.le_nearest_of_odd` and
`OddRange.nearest_le_of_odd`). A candidate between two odd counts in range
is therefore moved by at most one, and an odd count in range not at all.

Of the question, it is enough to know that it is about the rounded count
and not about the candidate. A candidate and its nearest odd count thus
get the same answer, and the guard, asked again about a count to which it
lets the tier move, lets it move there (`OddRange.guard_contract`).

None of this depends on the bounds being in order. If there is no odd
count between the floor and the ceiling, the only count in range is the
first odd one above the floor.
-/

namespace ClusterScaling

/-- A move from a live count breaks the quorum if it removes primaries and leaves fewer healthy ones
than are required. -/
def QuorumState.BrokenBy (state : QuorumState) (current count : Nat) : Prop :=
  count < current ∧ (state.healthy.toNat : Int) - (current - count) < state.minHealthy.toNat

instance (state : QuorumState) (current count : Nat) : Decidable (state.BrokenBy current count) :=
  inferInstanceAs (Decidable (_ ∧ _))

/-- What breaks the quorum is broken by a greater removal as well. -/
theorem QuorumState.BrokenBy.mono {state : QuorumState} {current count fewer : Nat}
    (h : state.BrokenBy current count) (hle : fewer ≤ count) : state.BrokenBy current fewer := by
  obtain ⟨hlt, hshort⟩ := h
  exact ⟨by omega, by omega⟩

namespace OddRange

/-! ## Rounding -/

section

variable (r : OddRange) {n : Nat}

/-- No odd count in range lies between a candidate and a lower nearest odd count. -/
theorem le_nearest_of_odd {a : Nat} (hodd : a % 2 = 1) (hhighest : a ≤ r.highest) (hle : a ≤ n)
    (direction : Action) : a ≤ r.nearest n direction := by
  unfold nearest
  grind

/-- No odd count in range lies between a candidate and a greater nearest odd count. -/
theorem nearest_le_of_odd {a : Nat} (hodd : a % 2 = 1) (hlowest : r.lowest ≤ a) (hle : n ≤ a)
    (direction : Action) : r.nearest n direction ≤ a := by
  have hhighest := r.odd_highest
  unfold nearest
  grind

/-- A tier that does not shrink is not rounded down, unless the candidate is above the range. -/
theorem le_nearest {direction : Action} (hgrows : direction ≠ .scaleDown)
    (hhighest : n ≤ r.highest) : n ≤ r.nearest n direction := by
  have hodd := r.odd_highest
  unfold nearest
  grind

/-- A tier that shrinks is not rounded up, unless the candidate is below the range. -/
theorem nearest_le (hlowest : r.lowest ≤ n) : r.nearest n .scaleDown ≤ n := by
  unfold nearest
  grind

/-- An odd count in range is its own nearest one. -/
theorem nearest_of_mem (hodd : n % 2 = 1) (hlowest : r.lowest ≤ n) (hhighest : n ≤ r.highest)
    (direction : Action) : r.nearest n direction = n :=
  Nat.le_antisymm (r.nearest_le_of_odd hodd hlowest (Nat.le_refl n) direction)
    (r.le_nearest_of_odd hodd hhighest (Nat.le_refl n) direction)

/-- **A candidate in range is moved by at most one.** -/
theorem nearest_near (hlowest : r.lowest ≤ n) (hhighest : n ≤ r.highest) (direction : Action) :
    r.nearest n direction ≤ n + 1 ∧ n ≤ r.nearest n direction + 1 := by
  have hodd_lowest := r.odd_lowest
  have hodd_highest := r.odd_highest
  rcases Nat.mod_two_eq_zero_or_one n with heven | hodd
  · -- the neighbours of an even candidate are odd and still in range
    have hle := r.le_nearest_of_odd (a := n - 1) (n := n) (by omega) (by omega) (by omega) direction
    have hge := r.nearest_le_of_odd (a := n + 1) (n := n) (by omega) (by omega) (by omega) direction
    omega
  · rw [r.nearest_of_mem hodd hlowest hhighest direction]
    omega

end

/-! ## The range of given bounds -/

section

variable (least most minHealthy : UInt32) {n : Nat}

/-- The greatest of the floors under a range. -/
def floorOf (least minHealthy : UInt32) : Nat := max (max least.toNat minHealthy.toNat) 1

theorem floorOf_le_lowest :
    floorOf least minHealthy ≤ (ofBounds least most minHealthy).lowest := by
  unfold floorOf ofBounds
  grind

/-- The range begins with the first odd count above the floor. -/
theorem lowest_ofBounds_le (hodd : n % 2 = 1) (hfloor : floorOf least minHealthy ≤ n) :
    (ofBounds least most minHealthy).lowest ≤ n := by
  unfold floorOf at hfloor
  unfold ofBounds
  grind

/-- The range ends with the last odd count below the ceiling, or later. -/
theorem le_highest_ofBounds (hodd : n % 2 = 1) (hmost : n ≤ most.toNat) :
    n ≤ (ofBounds least most minHealthy).highest := by
  unfold ofBounds
  grind

/-- **The ceiling holds if there is an odd count between the floor and the ceiling.** -/
theorem highest_ofBounds_le (hodd : n % 2 = 1) (hfloor : floorOf least minHealthy ≤ n)
    (hmost : n ≤ most.toNat) : (ofBounds least most minHealthy).highest ≤ most.toNat := by
  unfold floorOf at hfloor
  unfold ofBounds
  grind

end

/-! ## What the guard answers -/

section

variable {r : OddRange} {current candidate : UInt32} {state : QuorumState}

/-- The odd count that the guard has in mind for a candidate. -/
def aim (r : OddRange) (current candidate : UInt32) : Nat :=
  r.nearest candidate.toNat (.between current candidate)

/-- The guard has a count in mind that exists. -/
theorem toNat_ofNat_aim (r : OddRange) (current candidate : UInt32) :
    (UInt32.ofNat (r.aim current candidate)).toNat = r.aim current candidate :=
  UInt32.toNat_ofNat_of_lt' (Nat.lt_of_le_of_lt (r.nearest_mem _ _).2 r.highest_lt)

/-- Nothing speaks against a count exactly if the move to it does not break the quorum. -/
theorem shortage?_eq_none_iff_not_brokenBy {current allowed : Nat} :
    shortage? state current allowed = none ↔ ¬ state.BrokenBy current allowed := by
  rw [shortage?_eq_none]
  unfold QuorumState.BrokenBy
  omega

/-- A quorum that must not be broken is a veto. -/
theorem guard_of_vetoed (hbroken : state.BrokenBy current.toNat (r.aim current candidate))
    (hbreak : state.allowBreak = false) :
    (r.guard current candidate state).verdict = .vetoed
      ∧ (r.guard current candidate state).count = current := by
  cases hs : shortage? state current.toNat (r.aim current candidate) with
  | none => exact absurd hbroken (shortage?_eq_none_iff_not_brokenBy.mp hs)
  | some detail =>
    unfold aim at hs
    simp [guard, hs, hbreak]

/-- A quorum that may be broken is an exception, and the guard aims where it lets the tier move. -/
theorem guard_of_excepted (hbroken : state.BrokenBy current.toNat (r.aim current candidate))
    (hbreak : state.allowBreak = true) :
    (r.guard current candidate state).verdict = .quorumBreak
      ∧ (r.guard current candidate state).count.toNat = r.aim current candidate := by
  have hround := r.toNat_ofNat_aim current candidate
  cases hs : shortage? state current.toNat (r.aim current candidate) with
  | none => exact absurd hbroken (shortage?_eq_none_iff_not_brokenBy.mp hs)
  | some detail =>
    unfold aim at hs hround ⊢
    simp [guard, hs, hbreak, hround]

/-- A quorum that is not broken is no obstacle. -/
theorem guard_of_not_brokenBy
    (hsafe : ¬ state.BrokenBy current.toNat (r.aim current candidate)) :
    ((r.guard current candidate state).verdict = .allowed
        ∨ (r.guard current candidate state).verdict = .adjusted)
      ∧ (r.guard current candidate state).count.toNat = r.aim current candidate := by
  have hround := r.toNat_ofNat_aim current candidate
  have hs := shortage?_eq_none_iff_not_brokenBy.mpr hsafe
  unfold aim at hs hround ⊢
  by_cases heq : r.nearest candidate.toNat (.between current candidate) = candidate.toNat
  · rw [heq] at hs
    simp [guard, hs, heq]
  · simp [guard, hs, heq, hround]

/-- **The guard vetoes exactly if its aim breaks a quorum that must not be broken.** -/
theorem verdict_eq_vetoed_iff :
    (r.guard current candidate state).verdict = .vetoed
      ↔ state.BrokenBy current.toNat (r.aim current candidate) ∧ state.allowBreak = false := by
  by_cases hbroken : state.BrokenBy current.toNat (r.aim current candidate)
  · cases hbreak : state.allowBreak with
    | false => simp [hbroken, (guard_of_vetoed hbroken hbreak).1]
    | true => simp [(guard_of_excepted hbroken hbreak).1]
  · rcases (guard_of_not_brokenBy hbroken).1 with hv | hv <;> simp [hbroken, hv]

/-- **The guard reports an exception exactly if its aim breaks a quorum that may be broken.** -/
theorem verdict_eq_quorumBreak_iff :
    (r.guard current candidate state).verdict = .quorumBreak
      ↔ state.BrokenBy current.toNat (r.aim current candidate) ∧ state.allowBreak = true := by
  by_cases hbroken : state.BrokenBy current.toNat (r.aim current candidate)
  · cases hbreak : state.allowBreak with
    | false => simp [(guard_of_vetoed hbroken hbreak).1]
    | true => simp [hbroken, (guard_of_excepted hbroken hbreak).1]
  · rcases (guard_of_not_brokenBy hbroken).1 with hv | hv <;> simp [hbroken, hv]

/-- **Where the guard does not veto, it lets the tier move to its aim.** -/
theorem toNat_count_of_not_vetoed (hpass : (r.guard current candidate state).verdict ≠ .vetoed) :
    (r.guard current candidate state).count.toNat = r.aim current candidate := by
  by_cases hbroken : state.BrokenBy current.toNat (r.aim current candidate)
  · cases hbreak : state.allowBreak with
    | false => exact absurd (guard_of_vetoed hbroken hbreak).1 hpass
    | true => exact (guard_of_excepted hbroken hbreak).2
  · exact (guard_of_not_brokenBy hbroken).2

/-- The guard aims at a count to which it lets the tier move. -/
theorem aim_count_of_not_vetoed (hpass : (r.guard current candidate state).verdict ≠ .vetoed) :
    r.aim current (r.guard current candidate state).count = r.aim current candidate := by
  have hmem := r.nearest_mem candidate.toNat (.between current candidate)
  have hodd := r.odd_nearest candidate.toNat (.between current candidate)
  have hcount := toNat_count_of_not_vetoed hpass
  rw [aim, hcount]
  exact r.nearest_of_mem hodd hmem.1 hmem.2 _

end

/-! ## The contract -/

/-- **The contract of the guard.** Whatever the bounds, the floor of the quorum, the live count, the
candidate and the health of the primaries, let `aim` be the odd count nearest to the candidate. The
guard vetoes exactly if a move to it removes primaries, leaves too few healthy ones and may not, and
then it names the live count. Otherwise it names its aim, which is odd, not below the greatest of
the floors, and not above the ceiling if there is an odd count between them; which is at most one
away from a candidate that lies between two such counts; and which it names again if it is asked
about it. -/
theorem guard_contract (least most minHealthy current candidate : UInt32) (state : QuorumState) :
    let r := OddRange.ofBounds least most minHealthy
    let floor := max (max least.toNat minHealthy.toNat) 1
    let InRange := fun n : Nat => n % 2 = 1 ∧ floor ≤ n ∧ n ≤ most.toNat
    let aim := r.nearest candidate.toNat (.between current candidate)
    let answer := r.guard current candidate state
    let again := r.guard current answer.count state
    (answer.verdict = .vetoed ↔
        aim < current.toNat
          ∧ (state.healthy.toNat : Int) - (current.toNat - aim) < state.minHealthy.toNat
          ∧ state.allowBreak = false)
      ∧ (answer.verdict = .vetoed → answer.count = current)
      ∧ (answer.verdict ≠ .vetoed →
        answer.count.toNat = aim ∧ aim % 2 = 1 ∧ floor ≤ aim
          ∧ ((∃ n, InRange n) → aim ≤ most.toNat)
          ∧ (∀ a b, InRange a → InRange b → a ≤ candidate.toNat → candidate.toNat ≤ b →
            aim ≤ candidate.toNat + 1 ∧ candidate.toNat ≤ aim + 1)
          ∧ again.verdict ≠ .vetoed ∧ again.count = answer.count) := by
  intro r floor InRange aim answer again
  have hmem := r.nearest_mem candidate.toNat (.between current candidate)
  refine ⟨verdict_eq_vetoed_iff.trans and_assoc, fun hveto => ?_, fun hpass => ?_⟩
  · obtain ⟨hbroken, hbreak⟩ := verdict_eq_vetoed_iff.mp hveto
    exact (guard_of_vetoed hbroken hbreak).2
  · have hcount : answer.count.toNat = aim := toNat_count_of_not_vetoed hpass
    -- asked about its aim, the guard has the same aim
    have hagain : r.aim current answer.count = aim := aim_count_of_not_vetoed hpass
    have hstill : again.verdict ≠ .vetoed := by
      intro hveto
      have hbroken := verdict_eq_vetoed_iff.mp hveto
      rw [hagain] at hbroken
      exact hpass (verdict_eq_vetoed_iff.mpr hbroken)
    refine ⟨hcount, r.odd_nearest _ _, ?_, ?_, ?_, hstill, ?_⟩
    · exact Nat.le_trans (floorOf_le_lowest least most minHealthy) hmem.1
    · rintro ⟨n, hodd, hfloor, hmost⟩
      exact Nat.le_trans hmem.2 (highest_ofBounds_le least most minHealthy hodd hfloor hmost)
    · rintro a b ⟨hodda, hfloora, -⟩ ⟨hoddb, -, hmostb⟩ hlea hleb
      exact r.nearest_near
        (Nat.le_trans (lowest_ofBounds_le least most minHealthy hodda hfloora) hlea)
        (Nat.le_trans hleb (le_highest_ofBounds least most minHealthy hoddb hmostb)) _
    · apply UInt32.toNat_inj.mp
      rw [toNat_count_of_not_vetoed hstill, hagain, hcount]

end OddRange

end ClusterScaling
