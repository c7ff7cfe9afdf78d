import ClusterScaling.Proofs.Double.Bounds

/-!
# Quotients of counts

The part of something that is there is a quotient of two counts, and such
a quotient is a positive finite double: it is neither too small to differ
from zero nor too large to be finite. That is all that is needed of it
where it is multiplied with something unknown, since a zero times an
infinity is no number, and a positive finite double times anything is one
unless the other factor is none.

Division cuts off bits before anything is rounded, so its results are not
known to be the nearest doubles here; that they have full significands is
enough (`Double.Holds.div`).
-/

namespace ClusterScaling

open Float.Model Float.Model.UnpackedFloat

namespace Double

variable {x y : Float} {m n : Nat} {e d : Int}

/-- What has a full significand is positive. -/
theorem Holds.pos (h : Holds x m e) : 0.0 < x := by
  have hnan : x.isNaN = false := by
    obtain ⟨-, hm, hunpack⟩ := h
    show x.toModel.unpack.isNaN = false
    rw [hunpack]
    rfl
  have hzero : rank 0.0 = toLex (0, toLex (0, 0)) := rfl
  refine lt_iff.mpr ⟨by decide +kernel, hnan, ?_⟩
  rw [hzero, h.rank_eq, Prod.Lex.toLex_lt_toLex]
  exact .inl one_pos

/-- The dividend is shifted so far that the quotient of the significands has 53 bits or more. -/
theorem divCore_full (hm : m.log2 = 52) (hn : n.log2 = 52) (hleast : -1021 ≤ e - d) :
    divCore Format.binary64 m e n d
      = (m * 2 ^ 53 / n, e - d - 53, accuracyOfFraction (m * 2 ^ 53 % n) n) := by
  have htarget : min (e - d) (Format.binary64.targetExponent
      (totalExponent m e - totalExponent n d)) = e - d - 53 := by
    rw [targetExponent_eq, totalExponent, totalExponent, hm, hn]
    omega
  unfold divCore
  dsimp only
  rw [htarget, show (e - d - (e - d - 53)).toNat = 53 by omega, Nat.shiftLeft_eq]

/-- **A quotient of doubles of moderate size has a full significand.** -/
theorem Holds.div (hx : Holds x m e) (hy : Holds y n d) (hleast : -1021 ≤ e - d)
    (hmost : e - d ≤ 1022) : ∃ m' e', Holds (x / y) m' e' := by
  obtain ⟨hfull, hm, hx⟩ := hx
  obtain ⟨hfull', hn, hy⟩ := hy
  obtain ⟨hmlow, hmhigh⟩ := (Nat.log2_eq_iff (Nat.ne_of_gt hm)).mp hfull
  obtain ⟨hnlow, hnhigh⟩ := (Nat.log2_eq_iff (Nat.ne_of_gt hn)).mp hfull'
  have hdiv : (x / y).toModel.unpack = (Float.Model.pack (UnpackedFloat.div Format.binary64
      x.toModel.unpack y.toModel.unpack)).unpack := rfl
  have hcore := divCore_full hfull hfull' hleast
  have hlow : 2 ^ 52 ≤ m * 2 ^ 53 / n := by
    rw [Nat.le_div_iff_mul_le hn]
    omega
  have hhigh : m * 2 ^ 53 / n < 2 ^ 54 := by
    rw [Nat.div_lt_iff_lt_mul hn]
    omega
  generalize m * 2 ^ 53 / n = q at hcore hlow hhigh
  obtain ⟨k, hlog, -⟩ := exists_log2 (m := q) (a := 0) (by omega)
  have hk := (Nat.log2_lt (by omega)).mpr hhigh
  obtain ⟨m', j, hm', hfull, hj, -, hround⟩ := roundWithAccuracy_full .positive
    (accuracyOfFraction (m * 2 ^ 53 % n) n) (e := e - d - 53) hlog (by omega)
  refine ⟨m', e - d - 53 + k + (j : Nat), hfull, hm', ?_⟩
  rw [hdiv, hx, hy]
  show (Float.Model.pack (roundWithAccuracy Format.binary64 .positive
    (divCore Format.binary64 m e n d).1 (divCore Format.binary64 m e n d).2.1
    (divCore Format.binary64 m e n d).2.2)).unpack = _
  rw [hcore, hround]
  exact unpack_pack_full hm' hfull (by omega) (by omega)

/-- A count of up to 64 bits is a double of moderate size. -/
theorem exists_holds_toFloat (hpos : 0 < n) (hlt : n < UInt64.size) :
    ∃ m e, Holds (UInt64.ofNat n).toFloat m e ∧ -52 ≤ e ∧ e ≤ 12 := by
  have hlog64 : n.log2 < 64 := (Nat.log2_lt (Nat.ne_of_gt hpos)).mpr hlt
  by_cases hsmall : n < 2 ^ 53
  · have hlog := (Nat.log2_lt (Nat.ne_of_gt hpos)).mpr hsmall
    exact ⟨_, _, holds_toFloat hpos hsmall, by omega, by omega⟩
  · have hlog := (Nat.le_log2 (Nat.ne_of_gt hpos)).mpr (Nat.le_of_not_lt hsmall)
    have hnat : (UInt64.ofNat n).toNat = n := Nat.mod_eq_of_lt hlt
    have hround : UnpackedFloat.ofUInt64 Format.binary64 (UInt64.ofNat n)
        = roundWithAccuracy Format.binary64 .positive n 0 .exact := by
      unfold UnpackedFloat.ofUInt64 UnpackedFloat.ofNat UnpackedFloat.ofInt
      rw [hnat]
      exact normalize_of_full (by omega) (by decide) _
    obtain ⟨m', j, hm', hfull, hj, -, hfinite⟩ := roundWithAccuracy_full .positive .exact
      (m := n) (k := n.log2 - 52) (e := 0) (by omega) (by omega)
    refine ⟨m', 0 + (n.log2 - 52 : Nat) + (j : Nat), ⟨hfull, hm', ?_⟩, ?_, ?_⟩
    · show (Float.Model.pack (UnpackedFloat.ofUInt64 Format.binary64 (UInt64.ofNat n))).unpack = _
      rw [hround, hfinite]
      exact unpack_pack_full hm' hfull (by omega) (by omega)
    · omega
    · omega

/-- **A quotient of two counts is positive and finite.** -/
theorem div_toFloat (hm : 0 < m) (hmsize : m < UInt64.size) (hn : 0 < n)
    (hnsize : n < UInt64.size) :
    0.0 < (UInt64.ofNat m).toFloat / (UInt64.ofNat n).toFloat
      ∧ ((UInt64.ofNat m).toFloat / (UInt64.ofNat n).toFloat).isFinite = true := by
  obtain ⟨_, e, hx, he, he'⟩ := exists_holds_toFloat hm hmsize
  obtain ⟨_, d, hy, hd, hd'⟩ := exists_holds_toFloat hn hnsize
  obtain ⟨_, _, hquotient⟩ := hx.div hy (by omega) (by omega)
  exact ⟨hquotient.pos, hquotient.isFinite⟩

/-- A product with a positive finite double in front is no number only if the other factor is
none. -/
theorem isNaN_mul_left (y : Float) (hpos : 0.0 < x) (hfinite : x.isFinite = true) :
    (x * y).isNaN = y.isNaN := by
  obtain ⟨m, e, hm, hx⟩ := exists_of_pos hpos hfinite
  have hmul : (x * y).isNaN = (Float.Model.pack (UnpackedFloat.mul Format.binary64
      x.toModel.unpack y.toModel.unpack)).unpack.isNaN := rfl
  have hy : y.isNaN = y.toModel.unpack.isNaN := rfl
  rw [hmul, isNaN_unpack_pack, hy, hx]
  cases y.toModel.unpack with
  | notANumber => rfl
  | infinity s => rfl
  | zero s => rfl
  | finite s n d hn => exact isNaN_roundWithAccuracy _ _ _ _

end Double

end ClusterScaling
