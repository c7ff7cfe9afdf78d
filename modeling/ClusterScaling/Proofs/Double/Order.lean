import ClusterScaling.Proofs.Double.Product
import ClusterScaling.Scalar

/-!
# The order of doubles

Doubles are compared by their signs, then by their exponents, and last by
their significands. That is the order of their places (`Double.place`):
`x < y` holds exactly if both are numbers and the place of `x` is below
that of `y`, so every law of the order is one of integers. What is no
number is neither below nor above anything, and a comparison that fails
says nothing until it is known that both sides are numbers.

The greatest of several doubles passes over what is no number. That it is
below a bound therefore says that each of them is, *or is no number*
(`Scalar.foldl_greater_lt_iff`), and the second half cannot be left out.

What is no number comes from nothing but itself, as long as one
multiplies with positive finite doubles and divides by them
(`Double.isNaN_mul` and `Double.isNaN_div`).
-/

namespace ClusterScaling

open Float.Model Float.Model.UnpackedFloat

namespace Double

/-! ## Places -/

/-- The place of a number among all numbers: its sign and whether it is infinite, then its exponent
and its significand, upside down if it is negative. What is no number is put where zero is, so a
place alone does not say that there is a number. -/
def place : UnpackedFloat → ℤ ×ₗ ℤ ×ₗ ℤ
  | .notANumber => toLex (0, toLex (0, 0))
  | .infinity .negative => toLex (-2, toLex (0, 0))
  | .finite .negative m e _ => toLex (-1, toLex (-e, -m))
  | .zero _ => toLex (0, toLex (0, 0))
  | .finite .positive m e _ => toLex (1, toLex (e, m))
  | .infinity .positive => toLex (2, toLex (0, 0))

theorem compare_toLex {α β : Type} [LinearOrder α] [LinearOrder β] (a a' : α) (b b' : β) :
    compare (toLex (a, b)) (toLex (a', b')) = (compare a a').then (compare b b') := by
  rw [Prod.Lex.compare_def]
  rfl

theorem compare_natCast (m n : ℕ) : compare (m : ℤ) (n : ℤ) = compare m n := by
  rw [← cmp_eq_compare, ← cmp_eq_compare, Nat.strictMono_cast.cmp_map_eq]

theorem compare_neg (m n : ℤ) : compare (-m) (-n) = (compare m n).swap := by
  have hneg : StrictAnti fun z : ℤ => -z := fun _ _ => neg_lt_neg
  rw [← cmp_eq_compare, ← cmp_eq_compare, cmp_swap]
  exact hneg.cmp_map_eq m n

/-- **Numbers are compared by their places.** -/
theorem compare_eq_place {a b : UnpackedFloat} (ha : a.isNaN = false) (hb : b.isNaN = false) :
    UnpackedFloat.compare a b = some (compare (place a) (place b)) := by
  rcases a with ⟨_ | _⟩ | _ | _ | ⟨_ | _, m, e, hm⟩
  case notANumber => cases ha
  all_goals
    rcases b with ⟨_ | _⟩ | _ | _ | ⟨_ | _, n, d, hn⟩
    case notANumber => cases hb
    -- wherever the first components differ, or there is nothing else
    all_goals try rfl
  case finite.negative.finite.negative =>
    simp only [UnpackedFloat.compare, place, compare_toLex, compare_neg, compare_natCast,
      Ordering.swap_then]
    rfl
  case finite.positive.finite.positive =>
    simp only [UnpackedFloat.compare, place, compare_toLex, compare_natCast]
    rfl

/-- What is no number is compared with nothing. -/
theorem compare_eq_none {a b : UnpackedFloat} (h : a.isNaN = true ∨ b.isNaN = true) :
    UnpackedFloat.compare a b = none := by
  rcases a with _ | _ | _ | _ <;> rcases b with _ | _ | _ | _ <;>
    simp_all [UnpackedFloat.compare, UnpackedFloat.isNaN]

/-! ## Comparisons -/

/-- The place of a double. -/
def rank (x : Float) : ℤ ×ₗ ℤ ×ₗ ℤ := place x.toModel.unpack

section

variable {x y z : Float}

/-- Doubles are compared by their ranks, if both are numbers. -/
theorem compare_unpack (x y : Float) :
    UnpackedFloat.compare x.toModel.unpack y.toModel.unpack
      = if x.isNaN = false ∧ y.isNaN = false then some (compare (rank x) (rank y)) else none := by
  split
  · next hnumbers => exact compare_eq_place hnumbers.1 hnumbers.2
  · next hnan =>
    rw [not_and_or, Bool.not_eq_false, Bool.not_eq_false] at hnan
    exact compare_eq_none hnan

/-- **To be below is to be numbers and of a lower rank.** -/
theorem lt_iff : x < y ↔ x.isNaN = false ∧ y.isNaN = false ∧ rank x < rank y := by
  have hlt : x < y ↔ UnpackedFloat.lt x.toModel.unpack y.toModel.unpack = true :=
    decide_eq_true_iff
  rw [hlt, UnpackedFloat.lt, compare_unpack, ← and_assoc]
  split
  · next hnumbers =>
    rw [and_iff_right hnumbers, beq_iff_eq, Option.some.injEq, compare_lt_iff_lt]
  · next hnan => exact iff_of_false Bool.noConfusion fun h => hnan h.1

/-- **To be not above is to be numbers and of no higher rank.** -/
theorem le_iff : x ≤ y ↔ x.isNaN = false ∧ y.isNaN = false ∧ rank x ≤ rank y := by
  have hle : x ≤ y ↔ UnpackedFloat.le x.toModel.unpack y.toModel.unpack = true :=
    decide_eq_true_iff
  rw [hle, UnpackedFloat.le, compare_unpack, ← and_assoc]
  split
  · next hnumbers =>
    rw [and_iff_right hnumbers, Option.any_some, ← Ordering.ne_gt_iff_isLE]
    exact compare_le_iff_le
  · next hnan => exact iff_of_false Bool.noConfusion fun h => hnan h.1

theorem lt_trans (hxy : x < y) (hyz : y < z) : x < z := by
  rw [lt_iff] at hxy hyz ⊢
  exact ⟨hxy.1, hyz.2.1, hxy.2.2.trans hyz.2.2⟩

/-- Of two numbers the one that is not above the other is below whatever the other is below. -/
theorem lt_of_not_lt (hx : x.isNaN = false) (hy : y.isNaN = false) (hnot : ¬ x < y) (hxz : x < z) :
    y < z := by
  rw [lt_iff] at hnot hxz ⊢
  exact ⟨hy, hxz.2.1, (not_lt.mp fun h => hnot ⟨hx, hy, h⟩).trans_lt hxz.2.2⟩

/-- **What is not below or equal is above, or there is something that is no number.** -/
theorem not_le_iff : ¬ x ≤ y ↔ x.isNaN = true ∨ y.isNaN = true ∨ y < x := by
  rw [le_iff, lt_iff]
  cases x.isNaN <;> cases y.isNaN <;> simp

/-! ## What is no number -/

/-- Bits whose exponent is not the greatest one are a number. -/
theorem isNaN_unpack {b : BitVec Format.binary64.numBits} (h : (unpackExponent b).toNat ≠ 2047) :
    (UnpackedFloat.unpack Format.binary64 b).isNaN = false := by
  fun_cases UnpackedFloat.unpack with
  | case1 => rfl
  | case2 mantissa exponent hones hnot => exact absurd (congrArg BitVec.toNat hones) h
  | case3 => rfl
  | case4 => rfl
  | case5 => rfl

/-- Only what is no number is packed as such. -/
theorem isNaN_unpack_pack (u : UnpackedFloat) :
    (Float.Model.pack u).unpack.isNaN = u.isNaN := by
  cases u with
  | notANumber => rfl
  | infinity s => cases s <;> rfl
  | zero s => cases s <;> rfl
  | finite s m e hm =>
    show (UnpackedFloat.unpack Format.binary64
      (UnpackedFloat.pack Format.binary64 (.finite s m e hm))).isNaN = false
    unfold UnpackedFloat.pack
    dsimp only
    split
    · cases s <;> rfl
    · next hroom =>
      refine isNaN_unpack ?_
      split
      · have hlt : (e + Format.binary64.exponentBias
            + Format.binary64.mantissaBitsWithoutImplicit).toNat + 1 < 2 ^ 11 :=
          Nat.not_le.mp hroom
        rw [unpackExponent_packComponents, BitVec.toNat_ofNat,
          Nat.mod_eq_of_lt (Nat.lt_of_succ_lt hlt)]
        omega
      · rw [unpackExponent_packComponents]
        decide

/-- A rounded number is a number. -/
theorem isNaN_roundWithAccuracy (s : Sign) (m : Nat) (e : Int) (a : Accuracy) :
    (roundWithAccuracy Format.binary64 s m e a).isNaN = false := by
  unfold roundWithAccuracy
  dsimp only
  split <;> rfl

/-- What is not below zero is a zero, the positive infinity or a positive finite double. -/
theorem cases_of_nonneg (h : 0.0 ≤ x) :
    (∃ s, x.toModel.unpack = .zero s) ∨ x.toModel.unpack = .infinity .positive
      ∨ ∃ m e, ∃ hm : 0 < m, x.toModel.unpack = .finite .positive m e hm := by
  obtain ⟨-, hnan, hrank⟩ := le_iff.mp h
  have hzero : (0.0 : Float).toModel.unpack = .zero .positive := rfl
  have hx : x.isNaN = x.toModel.unpack.isNaN := rfl
  rw [rank, rank, hzero] at hrank
  rw [hx] at hnan
  revert hrank hnan
  rcases x.toModel.unpack with ⟨_ | _⟩ | _ | s | ⟨_ | _, m, e, hm⟩
  case infinity.positive => exact fun _ _ => .inr (.inl rfl)
  case zero => exact fun _ _ => .inl ⟨s, rfl⟩
  case finite.positive => exact fun _ _ => .inr (.inr ⟨m, e, hm, rfl⟩)
  case notANumber => exact fun hnan _ => absurd hnan (by decide)
  all_goals exact fun _ hrank => absurd hrank (by simp [place, Prod.Lex.toLex_le_toLex])

/-- A positive finite double has a significand and an exponent. -/
theorem exists_of_pos (hpos : 0.0 < x) (hfinite : x.isFinite = true) :
    ∃ m e, ∃ hm : 0 < m, x.toModel.unpack = .finite .positive m e hm := by
  obtain ⟨hzero, hnan, hrank⟩ := lt_iff.mp hpos
  have hfin : x.toModel.unpack.isFinite = true := hfinite
  rcases cases_of_nonneg (le_iff.mpr ⟨hzero, hnan, hrank.le⟩) with ⟨s, hu⟩ | hu | hu
  · rw [rank, rank, hu] at hrank
    exact absurd hrank (lt_irrefl _)
  · rw [hu] at hfin
    cases hfin
  · exact hu

/-- A product with a positive finite double is no number only if the other factor is none. -/
theorem isNaN_mul (x : Float) (hpos : 0.0 < y) (hfinite : y.isFinite = true) :
    (x * y).isNaN = x.isNaN := by
  obtain ⟨m, e, hm, hy⟩ := exists_of_pos hpos hfinite
  have hmul : (x * y).isNaN = (Float.Model.pack (UnpackedFloat.mul Format.binary64
      x.toModel.unpack y.toModel.unpack)).unpack.isNaN := rfl
  have hx : x.isNaN = x.toModel.unpack.isNaN := rfl
  rw [hmul, isNaN_unpack_pack, hx, hy]
  cases x.toModel.unpack with
  | notANumber => rfl
  | infinity s => rfl
  | zero s => rfl
  | finite s n d hn => exact isNaN_roundWithAccuracy _ _ _ _

/-- A quotient by a positive finite double is no number only if the dividend is none. -/
theorem isNaN_div (x : Float) (hpos : 0.0 < y) (hfinite : y.isFinite = true) :
    (x / y).isNaN = x.isNaN := by
  obtain ⟨m, e, hm, hy⟩ := exists_of_pos hpos hfinite
  have hdiv : (x / y).isNaN = (Float.Model.pack (UnpackedFloat.div Format.binary64
      x.toModel.unpack y.toModel.unpack)).unpack.isNaN := rfl
  have hx : x.isNaN = x.toModel.unpack.isNaN := rfl
  rw [hdiv, isNaN_unpack_pack, hx, hy]
  cases x.toModel.unpack with
  | notANumber => rfl
  | infinity s => rfl
  | zero s => rfl
  | finite s n d hn => exact isNaN_roundWithAccuracy _ _ _ _

end

end Double

/-! ## The greatest double -/

namespace Scalar

variable {x y b : Float}

theorem isNaN_greater (hx : x.isNaN = false) : (greater x y).isNaN = false := by
  unfold greater
  split
  · exact hx
  · next hy =>
    rw [hx, if_neg Bool.false_ne_true]
    split
    · exact Bool.eq_false_iff.mpr hy
    · exact hx

/-- The greater of a number and another double is below a bound if both are, but what is no number
does not count. -/
theorem greater_lt_iff (hx : x.isNaN = false) :
    greater x y < b ↔ x < b ∧ (y.isNaN = true ∨ y < b) := by
  unfold greater
  cases hy : y.isNaN with
  | true => simp
  | false =>
    simp only [hx, Bool.false_eq_true, ↓reduceIte, false_or]
    split
    · next hlt => exact ⟨fun h => ⟨Double.lt_trans hlt h, h⟩, And.right⟩
    · next hnot => exact ⟨fun h => ⟨h, Double.lt_of_not_lt hx hy hnot h⟩, And.left⟩

/-- **The greatest of several doubles is below a bound exactly if all numbers among them are.** -/
theorem foldl_greater_lt_iff (hx : x.isNaN = false) (ys : List Float) :
    ys.foldl greater x < b ↔ x < b ∧ ∀ y ∈ ys, y.isNaN = true ∨ y < b := by
  induction ys generalizing x with
  | nil => simp
  | cons y ys ih =>
    rw [List.foldl_cons, ih (isNaN_greater hx), greater_lt_iff hx, List.forall_mem_cons, and_assoc]

end Scalar

end ClusterScaling
