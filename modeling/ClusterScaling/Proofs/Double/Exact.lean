import Mathlib.Algebra.Order.Field.Power
import Mathlib.Algebra.Order.Floor.Semiring
import Mathlib.Data.Rat.Floor
import ClusterScaling.Proofs.Double.Order

/-!
# The exact values of doubles

A finite double is a fraction, and `Double.toRat` says which. Doubles are
compared as their fractions are (`Double.le_iff_toRat`), since a
significand that is unpacked is full unless the exponent is the least one,
so the number with the higher exponent is the greater one.

Over exact fractions the arithmetic of loads rounds nowhere but in the
count at its end. The instance of `Scalar` here has the same operations as
the one of doubles, without rounding, infinities and what is no number;
the doubles of settings and readings stand for their exact values. A
double that is not finite has none and is put at zero, so what is stated
over fractions has to ask for finite readings.
-/

namespace ClusterScaling

open Float.Model Float.Model.UnpackedFloat

namespace Double

/-- The exact value of what a double is unpacked to, which is put at zero if there is none. -/
def exact : UnpackedFloat → ℚ
  | .finite .positive m e _ => m * 2 ^ e
  | .finite .negative m e _ => -(m * 2 ^ e)
  | _ => 0

/-- The exact value of a double. -/
def toRat (x : Float) : ℚ := exact x.toModel.unpack

/-- The exact value is a function of the place. -/
theorem exact_eq_of_place {a b : UnpackedFloat} (h : place a = place b) : exact a = exact b := by
  have hplace (u : UnpackedFloat) : exact u = (ofLex (ofLex (place u)).2).2
      * 2 ^ ((ofLex (place u)).1 * (ofLex (ofLex (place u)).2).1) := by
    rcases u with ⟨_ | _⟩ | _ | _ | ⟨_ | _, m, e, hm⟩ <;> simp [exact, place]
  rw [hplace a, hplace b, h]

/-- Of two significands the one with the higher exponent is the greater one. -/
theorem mul_zpow_lt {m n : Nat} {e d : Int} (hm : Canonical m e) (hn : Canonical n d)
    (h : e < d ∨ e = d ∧ m < n) : (m : ℚ) * 2 ^ e < n * 2 ^ d := by
  rcases h with hlt | ⟨rfl, hlt⟩
  · have hfull : n.log2 = 52 := hn.full.resolve_right fun hleast => by
      have := hm.le_exponent
      omega
    have hlow : m < 2 ^ 53 :=
      (Nat.log2_lt (Nat.ne_of_gt hm.pos)).mp (Nat.lt_succ_of_le hm.log2_le)
    have hhigh : 2 ^ 52 ≤ n := by
      rw [← hfull]
      exact Nat.log2_self_le (Nat.ne_of_gt hn.pos)
    calc (m : ℚ) * 2 ^ e < 2 ^ 53 * 2 ^ e := by
          gcongr
          exact_mod_cast hlow
      _ = 2 ^ 52 * 2 ^ (e + 1) := by
          rw [zpow_add_one₀ two_ne_zero]
          ring
      _ ≤ n * 2 ^ d := by
          gcongr
          · exact_mod_cast hhigh
          · exact one_le_two
          · exact hlt
  · gcongr

section

variable {x y : Float}

/-- The exact values of finite doubles are ordered as their ranks are. -/
theorem toRat_lt_of_rank (hx : x.isFinite = true) (hy : y.isFinite = true)
    (h : rank x < rank y) : toRat x < toRat y := by
  have hfinx : x.toModel.unpack.isFinite = true := hx
  have hfiny : y.toModel.unpack.isFinite = true := hy
  have hcanx {s m e hm} (hu : x.toModel.unpack = .finite s m e hm) := canonical_of_unpack hu
  have hcany {s m e hm} (hu : y.toModel.unpack = .finite s m e hm) := canonical_of_unpack hu
  unfold toRat
  unfold rank at h
  have hpos {m : Nat} (e : Int) (hm : 0 < m) : 0 < (m : ℚ) * 2 ^ e := by positivity
  generalize x.toModel.unpack = a at h hfinx hcanx
  generalize y.toModel.unpack = b at h hfiny hcany
  rcases a with _ | _ | _ | ⟨_ | _, m, e, hm⟩
  case infinity => cases hfinx
  case notANumber => cases hfinx
  all_goals
    rcases b with _ | _ | _ | ⟨_ | _, n, d, hn⟩
    case infinity => cases hfiny
    case notANumber => cases hfiny
    all_goals simp only [place, Prod.Lex.toLex_lt_toLex] at h
  all_goals try omega
  case zero.finite.positive => exact hpos d hn
  case finite.negative.zero => exact neg_lt_zero.mpr (hpos e hm)
  case finite.negative.finite.positive => exact (neg_lt_zero.mpr (hpos e hm)).trans (hpos d hn)
  case finite.negative.finite.negative =>
    exact neg_lt_neg (mul_zpow_lt (hcany rfl) (hcanx rfl) (by omega))
  case finite.positive.finite.positive => exact mul_zpow_lt (hcanx rfl) (hcany rfl) (by omega)

theorem isNaN_of_isFinite (h : x.isFinite = true) : x.isNaN = false := by
  have hfinite : x.toModel.unpack.isFinite = true := h
  show x.toModel.unpack.isNaN = false
  revert hfinite
  cases x.toModel.unpack <;> first | exact fun _ => rfl | exact nofun

/-- **Finite doubles are compared as their exact values are.** -/
theorem le_iff_toRat (hx : x.isFinite = true) (hy : y.isFinite = true) :
    x ≤ y ↔ toRat x ≤ toRat y := by
  rw [le_iff, and_iff_right (isNaN_of_isFinite hx), and_iff_right (isNaN_of_isFinite hy)]
  constructor
  · intro h
    rcases h.lt_or_eq with hlt | heq
    · exact (toRat_lt_of_rank hx hy hlt).le
    · exact (exact_eq_of_place heq).le
  · intro h
    by_contra hnot
    exact absurd (toRat_lt_of_rank hy hx (not_le.mp hnot)) (not_lt.mpr h)

theorem toRat_zero : toRat 0.0 = 0 := rfl

theorem toRat_neg_zero : toRat (-0.0) = 0 := rfl

theorem toRat_pos (hpos : 0.0 < x) (hfinite : x.isFinite = true) : 0 < toRat x :=
  toRat_zero ▸ toRat_lt_of_rank rfl hfinite (lt_iff.mp hpos).2.2

theorem toRat_nonneg (h : 0.0 ≤ x) : 0 ≤ toRat x := by
  unfold toRat
  rcases cases_of_nonneg h with ⟨s, hu⟩ | hu | ⟨m, e, hm, hu⟩ <;> rw [hu]
  · exact le_refl 0
  · exact le_refl 0
  · show 0 ≤ (m : ℚ) * 2 ^ e
    positivity

theorem Holds.toRat_eq {m : Nat} {e : Int} (h : Holds x m e) : toRat x = m * 2 ^ e := by
  obtain ⟨-, hm, hunpack⟩ := h
  unfold toRat
  rw [hunpack]
  rfl

theorem toRat_one : toRat 1.0 = 1 := by
  rw [holds_one.toRat_eq]
  norm_num

/-- A count is a double without any loss. -/
theorem toRat_toFloat (n : UInt32) : toRat n.toUInt64.toFloat = n.toNat := by
  have hcount : n.toUInt64 = n.toNat.toUInt64 := UInt64.toNat_inj.mp (by simp)
  rcases Nat.eq_zero_or_pos n.toNat with hzero | hpos
  · rw [hcount, hzero]
    rfl
  · have hlt : n.toNat < 2 ^ 53 := Nat.lt_trans n.toNat_lt_size (by decide)
    have hlog := (Nat.log2_lt (Nat.ne_of_gt hpos)).mpr hlt
    rw [hcount, (holds_toFloat hpos hlt).toRat_eq, Nat.cast_mul, Nat.cast_pow, Nat.cast_ofNat,
      mul_assoc, ← zpow_natCast, ← zpow_add₀ two_ne_zero,
      show ((52 - n.toNat.log2 : Nat) : Int) + (n.toNat.log2 - 52) = 0 by omega, zpow_zero,
      mul_one]

end

end Double

/-! ## Exact arithmetic -/

namespace Scalar

/-- Arithmetic without rounding. -/
instance : Scalar ℚ where
  ofFloat := Double.toRat
  less x y := decide (x < y)
  atMost x y := decide (x ≤ y)
  greatest
    | [] => 0
    | x :: xs => xs.foldl max x
  countFrom x := UInt32.ofNat (min ⌈x⌉₊ (UInt32.size - 1))

/-- The fraction that stands for a count. -/
theorem ofCount_rat (n : UInt32) : (ofCount n : ℚ) = n.toNat := Double.toRat_toFloat n

/-- The slack of a billionth is less than a replica. -/
theorem slack_mem : 0 ≤ (ofFloat 1e-9 : ℚ) ∧ (ofFloat 1e-9 : ℚ) < 1 := by
  have hvalue : (ofFloat 1e-9 : ℚ) = (4835703278458517 : ℕ) * 2 ^ (-82 : ℤ) := rfl
  rw [hvalue]
  norm_num

/-- A count from a fraction. -/
theorem toNat_countFrom (x : ℚ) : (countFrom x).toNat = min ⌈x⌉₊ (UInt32.size - 1) :=
  UInt32.toNat_ofNat_of_lt' (Nat.lt_of_le_of_lt (Nat.min_le_right _ _) (by decide))

/-- More asks for no smaller count. -/
theorem countFrom_mono {x y : ℚ} (h : x ≤ y) : countFrom x ≤ countFrom y := by
  rw [UInt32.le_iff_toNat_le, toNat_countFrom, toNat_countFrom]
  exact min_le_min_right _ (Nat.ceil_mono h)

end Scalar

end ClusterScaling
