import ClusterScaling.StepLimit

/-!
# What has moved, in 32 bits

A policy deducts what has moved in its period, and that is a sum that grows
with every move that is remembered. Counts have 32 bits. Summed up in as
many bits, one addition at a time, what has moved is what is left of the
sum by the number of counts (`StepPolicy.toNat_movedWord`), so nothing
changes as long as fewer replicas than that have moved in one direction
within one period (`StepPolicy.toNat_budgetWord`). Beyond, the shorter sum
forgets whole rounds, and a budget that is computed from it can only be
greater (`StepPolicy.budget_le_budgetWord`).
-/

namespace ClusterScaling

/-- How many replicas a move has moved, as a count. -/
def Move.magnitudeWord (m : Move) : UInt32 :=
  if m.after ≤ m.before then m.before - m.after else m.after - m.before

theorem Move.toNat_magnitudeWord (m : Move) : m.magnitudeWord.toNat = m.magnitude := by
  unfold magnitudeWord magnitude
  split
  · next hle =>
    rw [UInt32.toNat_sub_of_le _ _ hle]
    have hle' := UInt32.le_iff_toNat_le.mp hle
    omega
  · next hlt =>
    have hlt' : m.before.toNat < m.after.toNat :=
      UInt32.lt_iff_toNat_lt.mp (UInt32.not_le.mp hlt)
    rw [UInt32.toNat_sub_of_le _ _ (UInt32.le_iff_toNat_le.mpr (Nat.le_of_lt hlt'))]
    omega

/-- A sum of words is what is left of the sum of their values. -/
theorem toNat_foldl_add (xs : List UInt32) (start : UInt32) :
    (xs.foldl (· + ·) start).toNat
      = (start.toNat + (xs.map UInt32.toNat).foldr (· + ·) 0) % UInt32.size := by
  induction xs generalizing start with
  | nil => exact (Nat.mod_eq_of_lt start.toNat_lt).symm
  | cons x xs ih =>
    rw [List.foldl_cons, ih, UInt32.toNat_add, Nat.mod_add_mod, List.map_cons, List.foldr_cons,
      Nat.add_assoc]

namespace StepPolicy

variable (p : StepPolicy) (direction : Action) (current : UInt32) (h : History) (now : UInt64)

/-- How many replicas have moved in a direction in the policy's period, summed up in 32 bits. -/
def movedWord : UInt32 :=
  (((h.within now p.period).filter fun m => m.action = direction).map Move.magnitudeWord).foldl
    (· + ·) 0

/-- What is left of the allowance after what has moved, summed up in 32 bits. -/
def budgetWord : UInt32 :=
  let allowance := UInt32.ofNat (p.allowance current)
  let moved := p.movedWord direction h now
  if moved ≤ allowance then allowance - moved else 0

/-- **What has moved, in 32 bits, is what is left of it by the number of counts.** -/
theorem toNat_movedWord :
    (p.movedWord direction h now).toNat = p.moved direction h now % UInt32.size := by
  unfold movedWord moved
  rw [toNat_foldl_add, List.map_map, UInt32.toNat_zero, Nat.zero_add]
  congr 2
  exact List.map_congr_left fun m _ => m.toNat_magnitudeWord

/-- An allowance is a count. -/
theorem allowance_lt : p.allowance current < UInt32.size := by
  unfold allowance
  split
  · exact p.value.toNat_lt
  · split
    · decide
    · exact Nat.lt_of_le_of_lt (Nat.min_le_right _ _) (by decide)

theorem toNat_budgetWord_eq : (p.budgetWord direction current h now).toNat
    = p.allowance current - p.moved direction h now % UInt32.size := by
  have hallowance : (UInt32.ofNat (p.allowance current)).toNat = p.allowance current :=
    UInt32.toNat_ofNat_of_lt' (p.allowance_lt current)
  have hmoved := p.toNat_movedWord direction h now
  unfold budgetWord
  dsimp only
  split
  · next hle => rw [UInt32.toNat_sub_of_le _ _ hle, hallowance, hmoved]
  · next hgt =>
    have hlt := UInt32.lt_iff_toNat_lt.mp (UInt32.not_le.mp hgt)
    rw [hallowance, hmoved] at hlt
    rw [UInt32.toNat_zero]
    omega

/-- **As long as what has moved is a count, 32 bits are enough.** -/
theorem toNat_budgetWord (hfits : p.moved direction h now < UInt32.size) :
    (p.budgetWord direction current h now).toNat = p.budget direction current h now := by
  rw [toNat_budgetWord_eq, Nat.mod_eq_of_lt hfits]
  rfl

/-- **Otherwise they leave a greater budget**, if anything. -/
theorem budget_le_budgetWord :
    p.budget direction current h now ≤ (p.budgetWord direction current h now).toNat := by
  rw [toNat_budgetWord_eq]
  exact Nat.sub_le_sub_left (Nat.mod_le _ _) _

end StepPolicy

end ClusterScaling
