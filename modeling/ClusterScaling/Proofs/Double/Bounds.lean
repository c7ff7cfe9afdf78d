import ClusterScaling.Band
import ClusterScaling.Proofs.Double.Order

/-!
# Lower bounds of computed doubles

A load above the band asks for more replicas. That the count computed
from it is not less than the live one is not a matter of course, since
the product with the load is rounded, a billionth is taken off and the
difference is rounded again. What saves it is that rounding does not go
past a double: if an exact result is not below `n * 2 ^ d`, a double, the
rounded one is not either (`reaches_of_round`). It may be infinite, and an
infinity is not below anything; so a result that overflows needs no case
of its own where `Reaches` is known of it.

The slack of a billionth is the one place where this is not enough. Half
of a double's last place may be larger than the slack or a good deal
smaller, but it is always small against one, and that is all that the
count, which is rounded up, has to know (`le_countFromDouble_sub`).
-/

namespace ClusterScaling

open Float.Model Float.Model.UnpackedFloat

namespace Double

variable {x y : Float} {m n : Nat} {e d : Int} {k : Nat}

/-! ## Bounds -/

/-- A double is not below `n * 2 ^ d`, and that is positive. -/
def Reaches (x : Float) (n : Nat) (d : Int) : Prop := toLex (1, toLex (d, (n : ℤ))) ≤ rank x

theorem Holds.rank_eq (h : Holds x m e) : rank x = toLex (1, toLex (e, (m : ℤ))) := by
  obtain ⟨-, hm, hunpack⟩ := h
  rw [rank, hunpack]
  rfl

theorem Holds.reaches (h : Holds x m e) (hle : d < e ∨ d = e ∧ n ≤ m) : Reaches x n d := by
  rw [Reaches, h.rank_eq, Prod.Lex.toLex_le_toLex, Prod.Lex.toLex_le_toLex]
  exact .inr ⟨rfl, by simpa using hle⟩

theorem reaches_of_infinity (h : x.toModel.unpack = .infinity .positive) : Reaches x n d := by
  rw [Reaches, rank, h, place, Prod.Lex.toLex_le_toLex]
  exact .inl one_lt_two

/-- What is above something that reaches a bound reaches it too. -/
theorem Reaches.of_lt (h : Reaches x n d) (hlt : x < y) : Reaches y n d :=
  h.trans (lt_iff.mp hlt).2.2.le

/-- What reaches a bound that is not among the least doubles is infinite, or has a full significand
and is not below the bound. -/
theorem Reaches.cases (h : Reaches x n d) (hd : -1074 < d) :
    x.toModel.unpack = .infinity .positive
      ∨ ∃ m e, Holds x m e ∧ (d < e ∨ d = e ∧ n ≤ m) := by
  unfold Reaches rank at h
  rcases hu : x.toModel.unpack with ⟨_ | _⟩ | _ | s | ⟨_ | _, m, e, hm⟩ <;> rw [hu] at h
  case infinity.positive => exact .inl rfl
  case finite.positive =>
    have hle : d < e ∨ d = e ∧ n ≤ m := by
      simpa [place, Prod.Lex.toLex_le_toLex] using h
    have hfull := (canonical_of_unpack hu).full.resolve_right (by omega)
    exact .inr ⟨m, e, ⟨hfull, hm, hu⟩, hle⟩
  all_goals exact absurd h (by simp [place, Prod.Lex.toLex_le_toLex])

/-- What reaches a bound is positive. -/
theorem Reaches.not_le_zero (h : Reaches x n d) : ¬ x ≤ 0.0 := fun hle => by
  have hzero : rank 0.0 = toLex (0, toLex (0, 0)) := rfl
  have hrank := h.trans (le_iff.mp hle).2.2
  rw [hzero] at hrank
  exact absurd hrank (by simp [Prod.Lex.toLex_le_toLex])

/-! ## Rounding -/

/-- What is too large for a double is packed as an infinity. -/
theorem unpack_pack_infinity (hm : 0 < m) (hmost : 971 < e) :
    (Float.Model.pack (.finite .positive m e hm)).unpack = .infinity .positive := by
  have hpack : UnpackedFloat.pack Format.binary64 (.finite .positive m e hm)
      = packedInfinity Format.binary64 .positive := by
    have hroom : 2 ^ 11 ≤ (e + 1023 + 52).toNat + 1 := by omega
    unfold UnpackedFloat.pack
    exact if_pos hroom
  show UnpackedFloat.unpack Format.binary64 (UnpackedFloat.pack Format.binary64 _) = _
  rw [hpack]
  rfl

/-- A rounded double is infinite, or the nearest one with a full significand. -/
theorem cases_of_round
    (hx : x.toModel.unpack = (Float.Model.pack
      (roundWithAccuracy Format.binary64 .positive m e .exact)).unpack)
    (hlog : m.log2 = 52 + k) (he : -1074 ≤ e + k) :
    x.toModel.unpack = .infinity .positive
      ∨ ∃ m' j, Holds x m' (e + k + (j : Nat)) ∧ j ≤ 1
        ∧ 2 * (m' * 2 ^ j * 2 ^ k) ≤ 2 * m + 2 ^ k
        ∧ 2 * m ≤ 2 * (m' * 2 ^ j * 2 ^ k) + 2 ^ k := by
  obtain ⟨m', j, hm', hfull, hj, hround, hle, hge⟩ := roundWithAccuracy_near .positive hlog he
  rw [hround] at hx
  by_cases hmost : e + k + (j : Nat) ≤ 971
  · rw [unpack_pack_full hm' hfull (by omega) hmost] at hx
    exact .inr ⟨m', j, ⟨hfull, hm', hx⟩, hj, hle, hge⟩
  · rw [unpack_pack_infinity hm' (by omega)] at hx
    exact .inl hx

/-- **Rounding does not go below a bound.** -/
theorem reaches_of_round
    (hx : x.toModel.unpack = (Float.Model.pack
      (roundWithAccuracy Format.binary64 .positive m e .exact)).unpack)
    (hlog : m.log2 = 52 + k) (he : -1074 ≤ e + k)
    (hbound : d < e + k ∨ d = e + k ∧ n * 2 ^ k ≤ m) : Reaches x n d := by
  rcases cases_of_round hx hlog he with hinf | ⟨m', j, hholds, hj, -, hge⟩
  · exact reaches_of_infinity hinf
  · refine hholds.reaches ?_
    rcases hbound with hlt | ⟨rfl, hle⟩
    · exact .inl (by omega)
    · interval_cases j
      · -- the nearest significand is not below one that is there
        refine .inr ⟨by omega, ?_⟩
        by_contra hless
        have hmul : (m' + 1) * 2 ^ k ≤ n * 2 ^ k := Nat.mul_le_mul_right _ (by omega)
        rw [Nat.succ_mul] at hmul
        rw [pow_zero, mul_one] at hge
        have hpos := Nat.two_pow_pos k
        omega
      · exact .inl (by omega)

/-- An exact result that has enough bits is rounded as it is. -/
theorem normalize_of_full (hlog : 52 ≤ m.log2) (he : -1074 ≤ e) (s : Sign) :
    UnpackedFloat.normalize Format.binary64 (m : Int) e s
      = roundWithAccuracy Format.binary64 .positive m e .exact := by
  have hpos : 0 < m := Nat.pos_of_ne_zero (by rintro rfl; simp at hlog)
  have htarget : e ≤ Format.binary64.targetExponent (totalExponent m e) := by
    rw [targetExponent_eq, totalExponent]
    omega
  unfold UnpackedFloat.normalize
  rw [show compare (m : Int) 0 = .gt from compare_gt_iff_gt.mpr (by omega)]
  show UnpackedFloat.round Format.binary64 .positive m e = _
  unfold UnpackedFloat.round decreaseExponent
  simp only [Int.toNat_of_nonpos (Int.sub_nonpos_of_le htarget)]
  rw [Nat.shiftLeft_zero, Int.natCast_zero, Int.sub_zero]

/-- A result that is not below a power of two has as many bits. -/
theorem exists_log2 {a : Nat} (h : 2 ^ 52 * 2 ^ a ≤ m) : ∃ k, m.log2 = 52 + k ∧ a ≤ k := by
  have hpos := Nat.mul_pos (Nat.two_pow_pos 52) (Nat.two_pow_pos a)
  rw [← Nat.pow_add] at h hpos
  have hlog := (Nat.le_log2 (by omega)).mpr h
  exact ⟨m.log2 - 52, by omega, by omega⟩

/-! ## The operations -/

/-- **One and something that is not negative is not below one.** -/
theorem reaches_one_add (h : 0.0 ≤ x) : Reaches (1.0 + x) (2 ^ 52) (-52) := by
  have hone : (1.0 : Float).toModel.unpack = .finite .positive (2 ^ 52) (-52) (by decide) := rfl
  have hadd : (1.0 + x).toModel.unpack = (Float.Model.pack (UnpackedFloat.add Format.binary64
      (.finite .positive (2 ^ 52) (-52) (by decide)) x.toModel.unpack)).unpack := by
    rw [← hone]
    rfl
  rcases cases_of_nonneg h with ⟨s, hu⟩ | hu | ⟨m, e, hm, hu⟩ <;> rw [hu] at hadd
  · -- nothing is added
    refine Holds.reaches (m := 2 ^ 52) (e := -52) ⟨rfl, by decide, hadd.trans ?_⟩
      (.inr ⟨rfl, Nat.le_refl _⟩)
    cases s <;> rfl
  · exact reaches_of_infinity hadd
  · have hleast := (canonical_of_unpack hu).le_exponent
    generalize hs : min (-52) e = s at *
    generalize ha : (-52 - s).toNat = a
    have hsum : UnpackedFloat.add Format.binary64 (.finite .positive (2 ^ 52) (-52) (by decide))
        (.finite .positive m e hm)
          = UnpackedFloat.normalize Format.binary64
              ((2 ^ 52 * 2 ^ a + m * 2 ^ (e - s).toNat : Nat) : Int) s .positive := by
      rw [Nat.cast_add, ← Nat.shiftLeft_eq, ← Nat.shiftLeft_eq, ← ha, ← hs]
      rfl
    obtain ⟨k, hlog, hk⟩ := exists_log2 (Nat.le_add_right (2 ^ 52 * 2 ^ a) (m * 2 ^ (e - s).toNat))
    rw [hsum, normalize_of_full (by omega) (by omega)] at hadd
    refine reaches_of_round hadd hlog (by omega) ?_
    rcases Nat.eq_or_lt_of_le hk with rfl | hlt
    · exact .inr ⟨by omega, Nat.le_add_right _ _⟩
    · exact .inl (by omega)

/-- **A product with something not below one is not below the other factor.** -/
theorem Holds.reaches_mul (hx : Holds x n d) (hd : -1074 ≤ d) (hy : Reaches y (2 ^ 52) (-52)) :
    Reaches (x * y) n d := by
  have hmul : (x * y).toModel.unpack = (Float.Model.pack (UnpackedFloat.mul Format.binary64
      x.toModel.unpack y.toModel.unpack)).unpack := rfl
  obtain ⟨hfull, hn, hx⟩ := hx
  rcases hy.cases (by decide) with hu | ⟨m, e, ⟨hfull', hm, hu⟩, hle⟩ <;> rw [hx, hu] at hmul
  · have hprod : UnpackedFloat.mul Format.binary64 (.finite .positive n d hn) (.infinity .positive)
        = .infinity .positive := rfl
    rw [hprod] at hmul
    exact reaches_of_infinity hmul
  · have hprod : UnpackedFloat.mul Format.binary64 (.finite .positive n d hn)
        (.finite .positive m e hm)
          = roundWithAccuracy Format.binary64 .positive (n * m) (d + e) .exact := rfl
    have hnlow := ((Nat.log2_eq_iff (Nat.ne_of_gt hn)).mp hfull).1
    have hmlow := ((Nat.log2_eq_iff (Nat.ne_of_gt hm)).mp hfull').1
    obtain ⟨k, hlog, hk⟩ := exists_log2 (Nat.mul_le_mul hnlow hmlow)
    rw [hprod] at hmul
    refine reaches_of_round hmul hlog (by omega) ?_
    by_cases heq : d = d + e + k
    · -- the other factor is less than two
      obtain rfl : k = 52 := by omega
      exact .inr ⟨heq, Nat.mul_le_mul_left n hmlow⟩
    · exact .inl (by omega)

/-- A number `m * 2 ^ e` that is a count or more is so in units of `2 ^ -82`. -/
theorem mul_pow_le_of_reaches {N : Nat} (hpos : 0 < N) (hfull : m.log2 = 52)
    (hle : (N.log2 : Int) - 52 < e ∨ (N.log2 : Int) - 52 = e ∧ N * 2 ^ (52 - N.log2) ≤ m)
    (hlog : N.log2 ≤ 52) : N * 2 ^ 82 ≤ m * 2 ^ (e + 82).toNat := by
  have hm : m ≠ 0 := by
    rintro rfl
    cases hfull
  obtain ⟨hlow, -⟩ := (Nat.log2_eq_iff hm).mp hfull
  obtain ⟨-, hhigh⟩ := (Nat.log2_eq_iff (Nat.ne_of_gt hpos)).mp (rfl : N.log2 = N.log2)
  rcases hle with hlt | ⟨heq, hle⟩
  · calc N * 2 ^ 82 ≤ 2 ^ (N.log2 + 1) * 2 ^ 82 := Nat.mul_le_mul_right _ hhigh.le
      _ = 2 ^ (N.log2 + 83) := by rw [← Nat.pow_add]
      _ ≤ 2 ^ (52 + (e + 82).toNat) := Nat.pow_le_pow_right (by decide) (by omega)
      _ = 2 ^ 52 * 2 ^ (e + 82).toNat := Nat.pow_add ..
      _ ≤ m * 2 ^ (e + 82).toNat := Nat.mul_le_mul_right _ hlow
  · calc N * 2 ^ 82 = N * 2 ^ (52 - N.log2) * 2 ^ (N.log2 + 30) := by
          rw [Nat.mul_assoc, ← Nat.pow_add]
          congr 2
          omega
      _ ≤ m * 2 ^ (N.log2 + 30) := Nat.mul_le_mul_right _ hle
      _ = m * 2 ^ (e + 82).toNat := by
          congr 2
          omega

end Double

/-! ## Counts -/

namespace Decimal

/-- A quotient that is above the predecessor of a count is rounded up to it, or higher. -/
theorem le_roundUp {num den N : Nat} (hden : 0 < den) (h : (N - 1) * den < num) :
    N ≤ roundUp num den := by
  unfold roundUp
  rw [Nat.le_div_iff_mul_le hden]
  rw [Nat.sub_mul] at h
  omega

/-- The fraction of `m * 2 ^ q`, in units of a power of two that is small enough. -/
theorem Binary64.scaled_mul (m : Nat) {q : Int} {c : Nat} (hq : 0 ≤ q + c) :
    (scaled m q).1 * 2 ^ c = m * 2 ^ (q + c).toNat * (scaled m q).2 := by
  unfold scaled
  split
  · rw [Nat.mul_one, Nat.shiftLeft_eq, Nat.mul_assoc, ← Nat.pow_add]
    congr 2
    omega
  · rw [Nat.one_shiftLeft, Nat.mul_assoc, ← Nat.pow_add]
    congr 2
    omega

end Decimal

namespace Scalar

variable {x y : Float} {m : Nat} {e : Int}

theorem countFromDouble_of_infinity (h : x.toModel.unpack = .infinity .positive) :
    countFromDouble x = UInt32.size - 1 := by
  have hnan : x.isNaN = false := by
    show x.toModel.unpack.isNaN = false
    rw [h]
    rfl
  have hinf : x.isInf = true := by
    show x.toModel.unpack.isInf = true
    rw [h]
    rfl
  have hpos := (Double.reaches_of_infinity (n := 0) (d := 0) h).not_le_zero
  rw [countFromDouble, hnan, decide_eq_false hpos, Bool.or_false, if_neg Bool.false_ne_true, hinf,
    if_pos rfl]

theorem countFromDouble_of_holds (h : Double.Holds x m e) :
    countFromDouble x = min (Decimal.roundUp (Decimal.Binary64.scaled m e).1
      (Decimal.Binary64.scaled m e).2) (UInt32.size - 1) := by
  have hpos := (h.reaches (.inr ⟨rfl, Nat.le_refl _⟩)).not_le_zero
  have hparts := h.parts
  obtain ⟨-, hm, hunpack⟩ := h
  have hnan : x.isNaN = false := by
    show x.toModel.unpack.isNaN = false
    rw [hunpack]
    rfl
  have hinf : x.isInf = false := by
    show x.toModel.unpack.isInf = false
    rw [hunpack]
    rfl
  rw [countFromDouble, hnan, decide_eq_false hpos, Bool.or_false, if_neg Bool.false_ne_true, hinf,
    if_neg Bool.false_ne_true, hparts]
  rfl

/-- A positive double that is above the predecessor of a count is rounded up to it, or higher. -/
theorem le_countFromDouble {N c : Nat} (h : Double.Holds x m e) (hlt : N < UInt32.size)
    (hc : 0 ≤ e + c) (habove : (N - 1) * 2 ^ c < m * 2 ^ (e + c).toNat) :
    N ≤ countFromDouble x := by
  rw [countFromDouble_of_holds h]
  have hden := Decimal.Binary64.scaled_den_pos m e
  have hscaled := Decimal.Binary64.scaled_mul m hc
  refine Nat.le_min.mpr ⟨Decimal.le_roundUp hden ?_, by omega⟩
  refine Nat.lt_of_mul_lt_mul_right (a := 2 ^ c) ?_
  rw [hscaled, Nat.mul_right_comm]
  exact Nat.mul_lt_mul_of_pos_right habove hden

/-- **The slack costs no replica**: a double that is a count or more, less a billionth, is rounded
up to the count, or higher. -/
theorem le_countFromDouble_sub {N : Nat} (hpos : 0 < N) (hlt : N < UInt32.size)
    (h : Double.Reaches y (N * 2 ^ (52 - N.log2)) (N.log2 - 52)) :
    N ≤ countFromDouble (y - 1e-9) := by
  have hlt32 : N < 2 ^ 32 := hlt
  have hlogN := (Nat.log2_lt (Nat.ne_of_gt hpos)).mpr hlt32
  obtain ⟨c, hc, hslack, hcbits⟩ : ∃ c, ∃ hc : 0 < c,
      (1e-9 : Float).toModel.unpack = .finite .positive c (-82) hc ∧ c < 2 ^ 53 :=
    ⟨4835703278458517, by decide, rfl, by decide⟩
  have hsub : (y - 1e-9).toModel.unpack = (Float.Model.pack (UnpackedFloat.sub Format.binary64
      y.toModel.unpack (1e-9 : Float).toModel.unpack)).unpack := rfl
  rcases h.cases (by omega) with hu | ⟨m, e, ⟨hfull, hm, hu⟩, hle⟩
  · have hdiff : UnpackedFloat.sub Format.binary64 (.infinity .positive)
        (.finite .positive c (-82) hc) = .infinity .positive := rfl
    rw [hu, hslack, hdiff] at hsub
    rw [countFromDouble_of_infinity hsub]
    exact Nat.le_sub_one_of_lt hlt
  · have hbound := Double.mul_pow_le_of_reaches hpos hfull hle (by omega)
    generalize ht : (e + 82).toNat = t at hbound
    obtain ⟨M, hM⟩ : ∃ M, m * 2 ^ t = M + c := ⟨m * 2 ^ t - c, by omega⟩
    have hmin : min e (-82) = -82 := by omega
    have hdiff : UnpackedFloat.sub Format.binary64 (.finite .positive m e hm)
        (.finite .positive c (-82) hc)
          = UnpackedFloat.normalize Format.binary64 (M : Int) (-82) .positive := by
      show UnpackedFloat.normalize Format.binary64
        (((m <<< (e - min e (-82)).toNat : Nat) : Int) - ((c <<< (-82 - min e (-82)).toNat : Nat)))
        (min e (-82)) .positive = _
      rw [hmin, Int.sub_neg, ht, Nat.shiftLeft_eq, hM, Int.sub_self, Int.toNat_zero,
        Nat.shiftLeft_zero, Nat.cast_add, add_sub_cancel_right]
    -- the difference has at least 82 bits
    obtain ⟨k, hlog, -⟩ := Double.exists_log2 (a := 29) (m := M) (by
      rw [← Nat.pow_add]
      omega)
    have hbits := ((Nat.log2_eq_iff (by omega)).mp hlog).1
    rw [Nat.pow_add] at hbits
    rw [hu, hslack, hdiff, Double.normalize_of_full (by omega) (by decide)] at hsub
    rcases Double.cases_of_round hsub hlog (by omega) with hinf | ⟨m', j, hholds, -, -, hge⟩
    · rw [countFromDouble_of_infinity hinf]
      exact Nat.le_sub_one_of_lt hlt
    · refine le_countFromDouble (c := 82) hholds hlt (by omega) ?_
      have hexp : (-82 + (k : Int) + (j : Nat) + (82 : Nat)).toNat = j + k := by omega
      rw [hexp, Nat.pow_add, ← Nat.mul_assoc]
      omega

/-- A computed count exists. -/
theorem countFromDouble_lt (x : Float) : countFromDouble x < UInt32.size := by
  unfold countFromDouble
  split
  · decide
  · split
    · decide
    · exact Nat.lt_of_le_of_lt (Nat.min_le_right _ _) (by decide)

end Scalar

/-- **A load that is not below one asks for no fewer replicas.** -/
theorem le_proportional {base : UInt32} {driver : Float} (hpos : 0 < base.toNat)
    (h : Double.Reaches driver (2 ^ 52) (-52)) : base ≤ proportional base driver := by
  have hlt := base.toNat_lt_size
  have hbase : Double.Holds (Scalar.ofCount base : Float) (base.toNat * 2 ^ (52 - base.toNat.log2))
      (base.toNat.log2 - 52) := by
    have heq : base.toUInt64 = base.toNat.toUInt64 := UInt64.toNat_inj.mp (by simp)
    show Double.Holds base.toUInt64.toFloat _ _
    rw [heq]
    exact Double.holds_toFloat hpos (Nat.lt_trans hlt (by decide))
  have hcount := Scalar.le_countFromDouble_sub hpos hlt (hbase.reaches_mul (by omega) h)
  rw [UInt32.le_iff_toNat_le]
  show base.toNat ≤ (UInt32.ofNat (Scalar.countFromDouble _)).toNat
  rw [UInt32.toNat_ofNat_of_lt' (Scalar.countFromDouble_lt _)]
  exact hcount

end ClusterScaling
