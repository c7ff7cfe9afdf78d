import Mathlib
import ClusterScaling.Averaging

/-!
# The mean of one number

A field that is reported once should read as what was reported. The mean
of one number is the number added to zero and divided by one, and that
this loses nothing is a fact about doubles: an exact sum with zero is not
rounded at all, and the quotient by one is computed to a bit more than a
double has and then rounded to the number it came from
(`Double.div_one`). This needs that a double is written with as many bits
as it has room for (`Double.Canonical`), which is what unpacking one gives.

One double is not read back bit for bit. A negative zero becomes a zero,
which is equal to it as a number.
-/

namespace ClusterScaling

open Float.Model

namespace Double

/-- A significand and an exponent as they are unpacked from a finite double other than zero: the
significand is full, or the exponent is the least there is. -/
structure Canonical (m : Nat) (e : Int) : Prop where
  /-- The significand is not zero. -/
  pos : 0 < m
  /-- The significand has at most 53 bits. -/
  log2_le : m.log2 ≤ 52
  /-- The exponent is not less than the least one. -/
  le_exponent : -1074 ≤ e
  /-- Only at the least exponent has the significand fewer bits. -/
  full : m.log2 = 52 ∨ e = -1074

theorem canonical_of_unpack {b : BitVec Format.binary64.numBits} {s : UnpackedFloat.Sign} {m : Nat}
    {e : Int} {hm : 0 < m} (h : UnpackedFloat.unpack Format.binary64 b = .finite s m e hm) :
    Canonical m e := by
  revert h
  fun_cases UnpackedFloat.unpack with
  | case1 => exact nofun
  | case2 => exact nofun
  | case3 => exact nofun
  | case4 mantissa exponent value _ _ _ hzero _ =>
    -- without a leading one
    intro h
    injection h with _ hm' he'
    have hlt : mantissa.toNat < 2 ^ 52 := mantissa.isLt
    have hlog := (Nat.log2_lt (Nat.ne_of_gt hm)).mpr (hm' ▸ hlt)
    have hvalue : value = -1075 := by
      show (exponent.toNat : Int) - 1075 = -1075
      rw [hzero]
      rfl
    exact ⟨hm, by omega, by omega, .inr (by omega)⟩
  | case5 mantissa exponent value _ _ _ hzero =>
    -- with a leading one
    intro h
    injection h with _ hm' he'
    have hlt : mantissa.toNat < 2 ^ 52 := mantissa.isLt
    have hfull : (1#1 ++ mantissa).toNat = 2 ^ 52 + mantissa.toNat := by
      have hor := Nat.two_pow_add_eq_or_of_lt hlt 1
      rw [BitVec.toNat_append, BitVec.toNat_ofNat, ← Nat.mul_one (2 ^ 52), hor]
      rfl
    have hlog : m.log2 = 52 := (Nat.log2_eq_iff (Nat.ne_of_gt hm)).mpr (by omega)
    have hvalue : value = (exponent.toNat : Int) - 1075 := rfl
    have hpos : exponent.toNat ≠ 0 := fun h => hzero (BitVec.eq_of_toNat_eq h)
    exact ⟨hm, by omega, by omega, .inl hlog⟩

theorem targetExponent_eq (t : Int) :
    Format.binary64.targetExponent t = max (t - 53) (-1074) := rfl

open UnpackedFloat

variable {m : Nat} {e : Int}

/-- What is canonical has the exponent that it should have. -/
theorem shift_canonical (h : Canonical m e) :
    shiftToTargetExponent Format.binary64 m e .exact = (⟨m, false, false⟩, e) := by
  have htarget : Format.binary64.targetExponent (totalExponent m e) = e := by
    rw [targetExponent_eq, totalExponent]
    have hlog := h.log2_le
    have hleast := h.le_exponent
    rcases h.full with hfull | hfull <;> omega
  rw [shiftToTargetExponent, htarget, shiftToExponent, Int.sub_self]
  show ((⟨m, false, false⟩ : ExtendedMantissa), e + 0) = _
  rw [Int.add_zero]

/-- A full significand with a zero behind it is cut back to the significand. -/
theorem shift_two_mul (h : Canonical m e) (hfull : m.log2 = 52) :
    shiftToTargetExponent Format.binary64 (2 * m) (e - 1) .exact = (⟨m, false, false⟩, e) := by
  have hlog : (2 * m).log2 = m.log2 + 1 := Nat.log2_two_mul (Nat.ne_of_gt h.pos)
  have htarget : Format.binary64.targetExponent (totalExponent (2 * m) (e - 1)) = e := by
    rw [targetExponent_eq, totalExponent]
    have hleast := h.le_exponent
    omega
  have hone : (e - (e - 1)).toNat = 1 := by omega
  rw [shiftToTargetExponent, htarget, shiftToExponent, hone]
  show ((⟨2 * m / 2, 2 * m % 2 != 0, false⟩ : ExtendedMantissa), e - 1 + 1) = _
  rw [Int.sub_add_cancel, Nat.mul_div_cancel_left m (by decide), Nat.mul_mod_right]
  rfl

/-- What is cut to something canonical without a rest is rounded to it. -/
theorem round_of_shift {m' : Nat} {e' : Int} {a : Accuracy} (s : Sign) (h : Canonical m e)
    (hshift : shiftToTargetExponent Format.binary64 m' e' a = (⟨m, false, false⟩, e)) :
    roundWithAccuracy Format.binary64 s m' e' a = .finite s m e h.pos := by
  have hrounded : (⟨m, false, false⟩ : ExtendedMantissa).roundedMantissa = m := rfl
  simp only [roundWithAccuracy, hshift, hrounded, shift_canonical h, Nat.ne_of_gt h.pos,
    ↓reduceDIte]

/-- The quotient by one is exact. -/
theorem divCore_one {k : Nat} (m' : Nat) (hm : m <<< k = m' <<< 52)
    (hk : (k : Int) = e + 52 - max (m.log2 + e - 53) (-1074)) :
    divCore Format.binary64 m e (2 ^ 52) (-52) = (m', e + 52 - k, .exact) := by
  have hone : totalExponent (2 ^ 52) (-52) = 1 := by
    rw [totalExponent, Nat.log2_two_pow]
    rfl
  have htarget : min (e - -52) (Format.binary64.targetExponent (totalExponent m e - 1))
      = e + 52 - k := by
    rw [targetExponent_eq, totalExponent]
    omega
  have hshift : (e - -52 - (e + 52 - k)).toNat = k := by omega
  unfold divCore
  rw [hone, htarget]
  dsimp only
  rw [hshift, hm, Nat.shiftLeft_eq, Nat.mul_div_cancel _ (by decide), Nat.mul_mod_left]
  rfl

/-- **Division by one changes nothing.** -/
theorem div_one (s : Sign) (h : Canonical m e) :
    UnpackedFloat.div Format.binary64 (.finite s m e h.pos)
        (.finite .positive (2 ^ 52) (-52) (by decide))
      = .finite s m e h.pos := by
  have hsign : s / .positive = s := by cases s <;> rfl
  show roundWithAccuracy Format.binary64 (s / .positive)
    (divCore Format.binary64 m e (2 ^ 52) (-52)).1 (divCore Format.binary64 m e (2 ^ 52) (-52)).2.1
    (divCore Format.binary64 m e (2 ^ 52) (-52)).2.2 = _
  rw [hsign]
  have hlog := h.log2_le
  have hleast := h.le_exponent
  by_cases hsub : e = -1074
  · rw [divCore_one m (k := 52) rfl (by omega)]
    refine round_of_shift s h ?_
    dsimp only
    rw [show e + 52 - (52 : Nat) = e by omega]
    exact shift_canonical h
  · -- a full significand gets one bit more than it needs
    have hfull := h.full.resolve_right hsub
    rw [divCore_one (2 * m) (k := 53) (by rw [Nat.shiftLeft_eq, Nat.shiftLeft_eq]; omega)
      (by omega)]
    refine round_of_shift s h ?_
    dsimp only
    rw [show e + 52 - (53 : Nat) = e - 1 by omega]
    exact shift_two_mul h hfull

/-- A double is what it is unpacked to. -/
theorem pack_unpack (a : Float.Model) : Float.Model.pack a.unpack = a := by
  obtain ⟨bits, hvalid⟩ := a
  unfold Float.Model.pack Float.Model.unpack
  congr 1
  exact UInt64.toBitVec_inj.mp (UnpackedFloat.pack_unpack_of_valid hvalid)

end Double

namespace Averaging

/-- The mean of one number, in terms of what is computed. -/
theorem toModel_mean_singleton (x : Float) :
    (mean [x]).toModel = pack (UnpackedFloat.div Format.binary64
      (pack (UnpackedFloat.add Format.binary64 (.zero .positive) x.toModel.unpack)).unpack
      (.finite .positive (2 ^ 52) (-52) (by decide))) := by
  have hzero : (0.0 : Float).toModel.unpack = .zero .positive := rfl
  have hone : (UInt64.ofNat 1).toFloat.toModel.unpack
      = .finite .positive (2 ^ 52) (-52) (by decide) := rfl
  rw [← hzero, ← hone]
  rfl

/-- **The mean of one number is the number**, but for the sign of a zero. -/
theorem mean_singleton {x : Float} (hx : x.isFinite = true) :
    (mean [x] == x) = true ∧ (x ≠ -0.0 → mean [x] = x) := by
  obtain ⟨model⟩ := x
  have hfinite : model.unpack.isFinite = true := hx
  have hpack := Double.pack_unpack model
  cases hu : model.unpack with
  | infinity s =>
    rw [hu] at hfinite
    cases hfinite
  | notANumber =>
    rw [hu] at hfinite
    cases hfinite
  | zero s =>
    rw [hu] at hpack
    subst hpack
    cases s with
    | positive => exact ⟨rfl, fun _ => rfl⟩
    | negative => exact ⟨rfl, fun hne => absurd rfl hne⟩
  | finite s m e hm =>
    have hsum : UnpackedFloat.add Format.binary64 (.zero .positive) model.unpack
        = model.unpack := by
      rw [hu]
      rfl
    have hmodel : (mean [⟨model⟩]).toModel = model := by
      rw [toModel_mean_singleton, hsum, hpack, hu, Double.div_one s (Double.canonical_of_unpack hu),
        ← hu, hpack]
    have hmean : mean [⟨model⟩] = ⟨model⟩ := congrArg Float.ofModel hmodel
    rw [hmean]
    refine ⟨?_, fun _ => rfl⟩
    rw [Float.beq_self_iff]
    intro hnan
    have hnot : model = Float.nan.toModel := congrArg Float.toModel hnan
    rw [hnot] at hu
    cases hu

end Averaging

end ClusterScaling
