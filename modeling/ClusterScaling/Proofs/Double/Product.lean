import ClusterScaling.Proofs.Averaging.Mean

/-!
# Products of doubles

A double is known by what it is unpacked to, a significand and an
exponent. `Double.Holds x m e` says so of a positive double whose
significand is full, which is every double here: numbers of seconds and
milliseconds, the scales of units, and their products.

The product of two such doubles is the product of the significands,
rounded to 53 bits. What rounding does is said in two steps. The bits
that are shifted out leave two bits behind, and `tells_shift` says which
of the four cases about the rest they stand for; from this alone the
rounded significand is the nearest one, `roundedMantissa_near`. Rounding
may carry into a 54th bit, and then one more place is shifted: the `j` of
`Holds.mul` is that place, and a statement without it would be false for
products just below a power of two.

Nothing is said of products that are too large or too small to have a
full significand; the bounds on the exponent keep them out.
-/

namespace ClusterScaling

open Float.Model Float.Model.UnpackedFloat

namespace Double

/-! ## Rounding -/

/-- What the two bits behind a significand say about the rest that is cut off. -/
def Tells (round sticky : Bool) (rest unit : Nat) : Prop :=
  match round, sticky with
  | false, false => rest = 0
  | false, true => 0 < rest ∧ 2 * rest < unit
  | true, false => 2 * rest = unit
  | true, true => unit < 2 * rest

/-- **Cutting off bits loses only what the bits behind the significand tell.** -/
theorem tells_shift (m k : Nat) :
    ((⟨m, false, false⟩ : ExtendedMantissa) >>> k).mantissa = m / 2 ^ k
      ∧ Tells ((⟨m, false, false⟩ : ExtendedMantissa) >>> k).roundBit
          ((⟨m, false, false⟩ : ExtendedMantissa) >>> k).stickyBit (m % 2 ^ k) (2 ^ k) := by
  induction k with
  | zero =>
    refine ⟨(Nat.div_one m).symm, ?_⟩
    show m % 1 = 0
    exact Nat.mod_one m
  | succ k ih =>
    have hstep : (⟨m, false, false⟩ : ExtendedMantissa) >>> (k + 1)
        = ((⟨m, false, false⟩ : ExtendedMantissa) >>> k).shiftRightOne := rfl
    rw [hstep]
    generalize (⟨m, false, false⟩ : ExtendedMantissa) >>> k = em at ih
    obtain ⟨q, round, sticky⟩ := em
    obtain ⟨hq, htells⟩ := ih
    dsimp only at hq htells
    have hpow : 2 ^ (k + 1) = 2 * 2 ^ k := Nat.pow_succ'
    have hpos : 0 < 2 ^ k := Nat.two_pow_pos k
    have hlt : m % 2 ^ k < 2 ^ k := Nat.mod_lt _ hpos
    have hrest : m % 2 ^ (k + 1) = m % 2 ^ k + 2 ^ k * (q % 2) := by
      rw [hq, Nat.pow_succ, Nat.mod_mul]
    refine ⟨?_, ?_⟩
    · show q / 2 = _
      rw [hq, Nat.div_div_eq_div_mul, Nat.pow_succ]
    · show Tells (q % 2 != 0) (round || sticky) _ _
      rw [hrest, hpow]
      rcases Nat.mod_two_eq_zero_or_one q with hbit | hbit <;>
        cases round <;> cases sticky <;> simp_all [Tells] <;> omega

/-- A significand is rounded to the nearest one. -/
theorem roundedMantissa_near (m k : Nat) :
    let q := ((⟨m, false, false⟩ : ExtendedMantissa) >>> k).roundedMantissa
    2 * (q * 2 ^ k) ≤ 2 * m + 2 ^ k ∧ 2 * m ≤ 2 * (q * 2 ^ k) + 2 ^ k := by
  obtain ⟨hq, htells⟩ := tells_shift m k
  have hdiv := Nat.div_add_mod m (2 ^ k)
  generalize (⟨m, false, false⟩ : ExtendedMantissa) >>> k = em at hq htells
  obtain ⟨q, round, sticky⟩ := em
  dsimp only at hq htells ⊢
  subst hq
  have hlt : m % 2 ^ k < 2 ^ k := Nat.mod_lt _ (Nat.two_pow_pos k)
  rw [Nat.mul_comm] at hdiv
  have hsucc : (m / 2 ^ k + 1) * 2 ^ k = m / 2 ^ k * 2 ^ k + 2 ^ k := Nat.succ_mul _ _
  cases round <;> cases sticky <;>
    simp only [ExtendedMantissa.roundedMantissa, ExtendedMantissa.accuracy,
      Accuracy.roundToNearestEven] <;> unfold Tells at htells <;> dsimp only at htells
  · omega
  · omega
  · rcases Nat.mod_two_eq_zero_or_one (m / 2 ^ k) with hbit | hbit
    · rw [hbit, Nat.add_zero]
      omega
    · rw [hbit]
      omega
  · omega

/-- A rounded significand that is full again, perhaps after another shift. -/
theorem exists_carried {q : Nat} (hq : 2 ^ 52 ≤ q ∧ q ≤ 2 ^ 53) :
    ∃ m j, q = m * 2 ^ j ∧ m.log2 = 52 ∧ j ≤ 1 := by
  by_cases hcarry : q = 2 ^ 53
  · exact ⟨2 ^ 52, 1, hcarry, rfl, Nat.le_refl 1⟩
  · exact ⟨q, 0, (Nat.mul_one q).symm, (Nat.log2_eq_iff (by omega)).mpr (by omega), by decide⟩

/-- Cutting off bits divides the significand, whatever the bits behind it. -/
theorem mantissa_shift (em : ExtendedMantissa) (k : Nat) :
    (em >>> k).mantissa = em.mantissa / 2 ^ k := by
  induction k with
  | zero => exact (Nat.div_one _).symm
  | succ k ih =>
    have hstep : (em >>> (k + 1)).mantissa = (em >>> k).mantissa / 2 := rfl
    rw [hstep, ih, Nat.div_div_eq_div_mul, Nat.pow_succ]

/-- A significand is rounded to itself or to the next one. -/
theorem roundedMantissa_mem (em : ExtendedMantissa) :
    em.mantissa ≤ em.roundedMantissa ∧ em.roundedMantissa ≤ em.mantissa + 1 := by
  obtain ⟨q, round, sticky⟩ := em
  cases round <;> cases sticky <;>
    simp only [ExtendedMantissa.roundedMantissa, ExtendedMantissa.accuracy,
      Accuracy.roundToNearestEven] <;> omega

/-- **A result that has enough bits is rounded to a full significand**, whatever has been cut off
before: to what the first rounding gives, shifted by one place if that carries. -/
theorem roundWithAccuracy_full (s : Sign) (a : Accuracy) {m k : Nat} {e : Int}
    (hlog : m.log2 = 52 + k) (he : -1074 ≤ e + k) :
    ∃ m' j, ∃ hm : 0 < m', m'.log2 = 52 ∧ j ≤ 1
      ∧ m' * 2 ^ j = (ExtendedMantissa.ofMantissaAndAccuracy m a >>> k).roundedMantissa
      ∧ roundWithAccuracy Format.binary64 s m e a = .finite s m' (e + k + (j : Nat)) hm := by
  have hm0 : m ≠ 0 := by
    rintro rfl
    rw [Nat.log2_zero] at hlog
    omega
  have htarget : Format.binary64.targetExponent (totalExponent m e) = e + k := by
    rw [targetExponent_eq, totalExponent]
    omega
  have hshift : shiftToTargetExponent Format.binary64 m e a
      = (ExtendedMantissa.ofMantissaAndAccuracy m a >>> k, e + k) := by
    rw [shiftToTargetExponent, htarget, shiftToExponent, show (e + k - e).toNat = k by omega]
  have hstart : (ExtendedMantissa.ofMantissaAndAccuracy m a).mantissa = m := by
    rcases a with _ | ⟨_ | _ | _⟩ <;> rfl
  have hquotient := mantissa_shift (ExtendedMantissa.ofMantissaAndAccuracy m a) k
  rw [hstart] at hquotient
  obtain ⟨hle, hge⟩ := roundedMantissa_mem (ExtendedMantissa.ofMantissaAndAccuracy m a >>> k)
  rw [hquotient] at hle hge
  generalize hq : (ExtendedMantissa.ofMantissaAndAccuracy m a >>> k).roundedMantissa = q at hle hge
  -- the quotient has 53 bits, so that rounding it overflows by one at most
  obtain ⟨hlow, hhigh⟩ := (Nat.log2_eq_iff hm0).mp hlog
  rw [show 52 + k + 1 = 53 + k by omega] at hhigh
  have hrange : 2 ^ 52 ≤ m / 2 ^ k ∧ m / 2 ^ k < 2 ^ 53 := by
    rw [Nat.le_div_iff_mul_le (Nat.two_pow_pos k), Nat.div_lt_iff_lt_mul (Nat.two_pow_pos k),
      ← Nat.pow_add, ← Nat.pow_add]
    exact ⟨hlow, hhigh⟩
  obtain ⟨m', j, rfl, hfull, hj⟩ := exists_carried (q := q) (by omega)
  have hm' : 0 < m' := Nat.pos_of_ne_zero fun h => by
    rw [h] at hfull
    cases hfull
  refine ⟨m', j, hm', hfull, hj, rfl, ?_⟩
  have hcarry : shiftToTargetExponent Format.binary64 (m' * 2 ^ j) (e + k) .exact
      = (⟨m', false, false⟩, e + k + j) := by
    have hcanonical : Canonical m' (e + k + j) :=
      ⟨hm', Nat.le_of_eq hfull, by omega, .inl hfull⟩
    interval_cases j
    · simpa using shift_canonical hcanonical
    · have htwo := shift_two_mul hcanonical hfull
      rw [Nat.mul_comm] at htwo
      simpa using htwo
  simp only [roundWithAccuracy, hshift, hq, hcarry, Nat.ne_of_gt hm', ↓reduceDIte]

/-- **A full significand is reached by rounding to the nearest one.** -/
theorem roundWithAccuracy_near (s : Sign) {m k : Nat} {e : Int} (hlog : m.log2 = 52 + k)
    (he : -1074 ≤ e + k) :
    ∃ m' j, ∃ hm : 0 < m', m'.log2 = 52 ∧ j ≤ 1
      ∧ roundWithAccuracy Format.binary64 s m e .exact = .finite s m' (e + k + (j : Nat)) hm
      ∧ 2 * (m' * 2 ^ j * 2 ^ k) ≤ 2 * m + 2 ^ k
      ∧ 2 * m ≤ 2 * (m' * 2 ^ j * 2 ^ k) + 2 ^ k := by
  obtain ⟨m', j, hm', hfull, hj, hq, hround⟩ := roundWithAccuracy_full s .exact hlog he
  refine ⟨m', j, hm', hfull, hj, hround, ?_⟩
  rw [hq]
  exact roundedMantissa_near m k

/-! ## Packing -/

/-- A full significand and its exponent survive being packed. -/
theorem unpack_pack_full {m : Nat} {e : Int} (hm : 0 < m) (hfull : m.log2 = 52)
    (hleast : -1074 ≤ e) (hmost : e ≤ 971) :
    (Float.Model.pack (.finite .positive m e hm)).unpack = .finite .positive m e hm := by
  obtain ⟨hlow, hhigh⟩ := (Nat.log2_eq_iff (Nat.ne_of_gt hm)).mp hfull
  have hpack : UnpackedFloat.pack Format.binary64 (.finite .positive m e hm)
      = packComponents Format.binary64 .positive (BitVec.ofNat 11 (e + 1075).toNat)
          (BitVec.ofNat 52 m) := by
    have hbiased : (e + Format.binary64.exponentBias
        + Format.binary64.mantissaBitsWithoutImplicit).toNat = (e + 1075).toNat := by
      show (e + 1023 + 52).toNat = _
      omega
    have hroom : ¬ 2 ^ Format.binary64.exponentBits ≤ (e + 1075).toNat + 1 := by
      show ¬ 2 ^ 11 ≤ _
      omega
    unfold UnpackedFloat.pack
    simp only [hbiased]
    rw [if_neg hroom, if_pos (show m.log2 + 1 = Format.binary64.mantissaBits by rw [hfull]; rfl)]
  have hexponent : (BitVec.ofNat 11 (e + 1075).toNat).toNat = (e + 1075).toNat := by
    rw [BitVec.toNat_ofNat, Nat.mod_eq_of_lt (by omega)]
  have hones : BitVec.ofNat 11 (e + 1075).toNat ≠ -1#11 := fun h => by
    have hnat : (e + 1075).toNat = 2047 := hexponent.symm.trans (congrArg BitVec.toNat h)
    omega
  have hzero : BitVec.ofNat 11 (e + 1075).toNat ≠ 0#11 := fun h => by
    have hnat : (e + 1075).toNat = 0 := hexponent.symm.trans (congrArg BitVec.toNat h)
    omega
  have hmantissa : (1#1 ++ BitVec.ofNat 52 m).toNat = m := by
    rw [BitVec.toNat_append, ← Nat.shiftLeft_add_eq_or_of_lt (BitVec.isLt _), BitVec.toNat_ofNat]
    show 1 <<< 52 + m % 2 ^ 52 = m
    rw [Nat.shiftLeft_eq]
    omega
  have hsign : Sign.ofBitVec (unpackSign (packComponents Format.binary64 .positive
      (BitVec.ofNat 11 (e + 1075).toNat) (BitVec.ofNat 52 m))) = .positive := by
    unfold unpackSign packComponents
    simp only [BitVec.extractLsb]
    rw [BitVec.extractLsb'_append_eq_of_le (by decide),
      BitVec.extractLsb'_append_eq_of_le (by decide)]
    rfl
  show UnpackedFloat.unpack Format.binary64 (UnpackedFloat.pack Format.binary64 _) = _
  rw [hpack]
  unfold UnpackedFloat.unpack
  simp only [unpackMantissa_packComponents, unpackExponent_packComponents, hsign]
  rw [if_neg hones, if_neg hzero]
  congr 1
  rw [hexponent]
  show ((e + 1075).toNat : Int) - 1075 = e
  omega

/-- What a full significand is unpacked from. -/
theorem fields_of_unpack {b : BitVec Format.binary64.numBits} {s : Sign} {m : Nat} {e : Int}
    {hm : 0 < m} (h : UnpackedFloat.unpack Format.binary64 b = .finite s m e hm)
    (hfull : m.log2 = 52) :
    Sign.ofBitVec (unpackSign b) = s ∧ (unpackMantissa b).toNat + 2 ^ 52 = m
      ∧ ((unpackExponent b).toNat : Int) - 1075 = e ∧ (unpackExponent b).toNat ≠ 0 := by
  revert h
  fun_cases UnpackedFloat.unpack with
  | case1 => exact nofun
  | case2 => exact nofun
  | case3 => exact nofun
  | case4 mantissa exponent value _ _ _ _ _ =>
    -- a significand without a leading one is not full
    intro h
    injection h with _ hm' _
    have hlt : mantissa.toNat < 2 ^ 52 := mantissa.isLt
    have hlog := (Nat.log2_lt (Nat.ne_of_gt hm)).mpr (hm' ▸ hlt)
    omega
  | case5 mantissa exponent value _ _ _ hzero =>
    intro h
    injection h with hs hm' he'
    have happend : (1#1 ++ mantissa).toNat = 2 ^ 52 + mantissa.toNat := by
      have hlt : mantissa.toNat < 2 ^ 52 := mantissa.isLt
      have hor := Nat.two_pow_add_eq_or_of_lt hlt 1
      rw [BitVec.toNat_append, BitVec.toNat_ofNat, ← Nat.mul_one (2 ^ 52), hor]
      rfl
    refine ⟨hs, ?_, he', fun h => hzero (BitVec.eq_of_toNat_eq h)⟩
    show mantissa.toNat + 2 ^ 52 = m
    omega

/-- A positive double has no sign bit. -/
theorem signed_of_positive {x : Float}
    (h : Sign.ofBitVec (@unpackSign Format.binary64 x.toBits.toBitVec) = .positive) :
    Decimal.Binary64.signed x = false := by
  unfold unpackSign Sign.ofBitVec at h
  unfold Decimal.Binary64.signed
  rw [beq_eq_false_iff_ne]
  intro hone
  split at h
  · next hzero =>
    have hbit := congrArg BitVec.toNat hzero
    have hshift := congrArg UInt64.toNat hone
    rw [BitVec.toNat_cast, BitVec.extractLsb_toNat] at hbit
    rw [UInt64.toNat_shiftRight] at hshift
    simp at hbit hshift
    omega
  · cases h

/-! ## Positive doubles -/

/-- A double is `m * 2 ^ e`, with a full significand. -/
structure Holds (x : Float) (m : Nat) (e : Int) : Prop where
  /-- The significand is full. -/
  full : m.log2 = 52
  /-- This is what the double is unpacked to. -/
  unpack : ∃ hm : 0 < m, x.toModel.unpack = .finite .positive m e hm

theorem holds_one : Holds 1.0 (2 ^ 52) (-52) := ⟨rfl, by decide, rfl⟩

section

variable {x y : Float} {m n : Nat} {e d : Int}

/-- The significand and the exponent can be read off the bits. -/
theorem Holds.parts (h : Holds x m e) : Decimal.Binary64.parts x = ⟨false, m, e⟩ := by
  obtain ⟨hfull, hm, hunpack⟩ := h
  have hexponent : ((x.toBits >>> 52) &&& 0x7FF).toNat
      = (@unpackExponent Format.binary64 x.toBits.toBitVec).toNat := by
    unfold unpackExponent
    rw [BitVec.toNat_cast, BitVec.extractLsb_toNat, UInt64.toNat_and, UInt64.toNat_shiftRight]
    exact Nat.and_two_pow_sub_one_eq_mod _ 11
  have hmantissa : (x.toBits &&& 0xFFFFFFFFFFFFF).toNat
      = (@unpackMantissa Format.binary64 x.toBits.toBitVec).toNat := by
    unfold unpackMantissa
    rw [BitVec.toNat_cast, BitVec.extractLsb_toNat, UInt64.toNat_and]
    exact Nat.and_two_pow_sub_one_eq_mod _ 52
  obtain ⟨hsign, hm', he', hzero⟩ := fields_of_unpack (b := x.toBits.toBitVec) hunpack hfull
  have hpositive : Decimal.Binary64.signed x = false := signed_of_positive hsign
  unfold Decimal.Binary64.parts
  dsimp only
  rw [hexponent, hmantissa, hpositive, if_neg hzero, he', Nat.shiftLeft_eq, Nat.one_mul, hm']

theorem Holds.isFinite (h : Holds x m e) : x.isFinite = true := by
  obtain ⟨-, hm, hunpack⟩ := h
  show x.toModel.unpack.isFinite = true
  rw [hunpack]
  rfl

/-- A positive double is not below zero. -/
theorem Holds.zero_le (h : Holds x m e) : (0.0 ≤ x) ∧ ¬ x < 0.0 := by
  obtain ⟨-, hm, hunpack⟩ := h
  have hzero : (0.0 : Float).toModel.unpack = .zero .positive := rfl
  have hle : UnpackedFloat.le (0.0 : Float).toModel.unpack x.toModel.unpack = true := by
    rw [hunpack, hzero]
    rfl
  have hlt : UnpackedFloat.lt x.toModel.unpack (0.0 : Float).toModel.unpack = false := by
    rw [hunpack, hzero]
    rfl
  refine ⟨decide_eq_true hle, fun h => ?_⟩
  have htrue : UnpackedFloat.lt x.toModel.unpack (0.0 : Float).toModel.unpack = true :=
    of_decide_eq_true h
  rw [hlt] at htrue
  cases htrue

/-- **A product is rounded to the nearest double.** -/
theorem Holds.mul (hx : Holds x m e) (hy : Holds y n d) {k : Nat} (hlog : (m * n).log2 = 52 + k)
    (hleast : -1074 ≤ e + d + k) (hmost : e + d + k < 971) :
    ∃ m' j, Holds (x * y) m' (e + d + k + (j : Nat)) ∧ j ≤ 1
      ∧ 2 * (m' * 2 ^ j * 2 ^ k) ≤ 2 * (m * n) + 2 ^ k
      ∧ 2 * (m * n) ≤ 2 * (m' * 2 ^ j * 2 ^ k) + 2 ^ k := by
  obtain ⟨-, hm, hx⟩ := hx
  obtain ⟨-, hn, hy⟩ := hy
  obtain ⟨m', j, hm', hfull, hj, hround, hle, hge⟩ := roundWithAccuracy_near .positive hlog hleast
  refine ⟨m', j, ⟨hfull, hm', ?_⟩, hj, hle, hge⟩
  have hmul : (x * y).toModel.unpack = (Float.Model.pack (UnpackedFloat.mul Format.binary64
      x.toModel.unpack y.toModel.unpack)).unpack := rfl
  rw [hmul, hx, hy]
  show (Float.Model.pack (roundWithAccuracy Format.binary64 .positive _ _ .exact)).unpack = _
  rw [hround]
  exact unpack_pack_full hm' hfull (by omega) (by omega)

/-- A product with one is exact. -/
theorem Holds.mul_one (h : Holds x m e) (hleast : -1074 ≤ e) (hmost : e < 971) :
    Holds (x * 1.0) m e := by
  obtain ⟨hm, -⟩ := h.unpack
  obtain ⟨hlow, hhigh⟩ := (Nat.log2_eq_iff (Nat.ne_of_gt hm)).mp h.full
  have hlog : (m * 2 ^ 52).log2 = 52 + 52 :=
    (Nat.log2_eq_iff (by omega)).mpr (by omega)
  obtain ⟨m', j, hholds, hj, hle, hge⟩ := h.mul holds_one hlog (by omega) (by omega)
  interval_cases j
  · have heq : m' = m := by omega
    rw [heq] at hholds
    simpa using hholds
  · -- a carry would make the significand too long
    obtain ⟨hlow', -⟩ := (Nat.log2_eq_iff (by rintro rfl; omega)).mp hholds.full
    omega

end

/-- **A count of up to 53 bits is a double.** -/
theorem holds_toFloat {n : Nat} (hpos : 0 < n) (hlt : n < 2 ^ 53) :
    Holds n.toUInt64.toFloat (n * 2 ^ (52 - n.log2)) (n.log2 - 52) := by
  have hlog : n.log2 ≤ 52 := by
    have := (Nat.log2_lt (Nat.ne_of_gt hpos)).mpr hlt
    omega
  have hfull : (n * 2 ^ (52 - n.log2)).log2 = 52 := by
    obtain ⟨hlow, hhigh⟩ := (Nat.log2_eq_iff (Nat.ne_of_gt hpos)).mp (rfl : n.log2 = n.log2)
    have hscale : 2 ^ n.log2 * 2 ^ (52 - n.log2) = 2 ^ 52 := by
      rw [← Nat.pow_add, Nat.add_sub_cancel' hlog]
    have hmul := Nat.mul_le_mul_right (2 ^ (52 - n.log2)) hlow
    have hmul' := Nat.mul_lt_mul_of_pos_right hhigh (Nat.two_pow_pos (52 - n.log2))
    rw [Nat.pow_succ, Nat.mul_right_comm] at hmul'
    exact (Nat.log2_eq_iff (by omega)).mpr (by omega)
  have hm : 0 < n * 2 ^ (52 - n.log2) := Nat.mul_pos hpos (Nat.two_pow_pos _)
  refine ⟨hfull, hm, ?_⟩
  have hnat : n.toUInt64.toNat = n := Nat.mod_eq_of_lt (by omega)
  have hround : UnpackedFloat.ofUInt64 Format.binary64 n.toUInt64
      = UnpackedFloat.round Format.binary64 .positive n 0 := by
    unfold UnpackedFloat.ofUInt64 UnpackedFloat.ofNat UnpackedFloat.ofInt UnpackedFloat.normalize
    rw [hnat, show compare (n : Int) 0 = .gt from compare_gt_iff_gt.mpr (by omega)]
    rfl
  have htarget : Format.binary64.targetExponent (totalExponent n 0) = n.log2 - 52 := by
    rw [targetExponent_eq, totalExponent]
    omega
  have hcanonical : Canonical (n * 2 ^ (52 - n.log2)) (n.log2 - 52) :=
    ⟨hm, Nat.le_of_eq hfull, by omega, .inl hfull⟩
  show (Float.Model.pack (UnpackedFloat.ofUInt64 Format.binary64 n.toUInt64)).unpack = _
  rw [hround]
  unfold UnpackedFloat.round decreaseExponent
  simp only [htarget]
  rw [show (0 - ((n.log2 : Int) - 52)).toNat = 52 - n.log2 by omega,
    show (0 : Int) - (52 - n.log2 : Nat) = n.log2 - 52 by omega, Nat.shiftLeft_eq,
    round_of_shift .positive hcanonical (shift_canonical hcanonical)]
  exact unpack_pack_full hm hfull (by omega) (by omega)

/-- A count of up to 53 bits is read as the double that it is. -/
theorem holds_ofScientific {n : Nat} (hpos : 0 < n) (hlt : n < 2 ^ 53) :
    Holds (Float.ofScientific n false 0) (n * 2 ^ (52 - n.log2)) (n.log2 - 52) := by
  have hone : Float.ofScientific n false 0 = n.toUInt64.toFloat * 1.0 := by
    unfold Float.ofScientific
    rw [dif_pos ⟨hlt, by decide⟩]
    rfl
  have hlog := (Nat.log2_lt (Nat.ne_of_gt hpos)).mpr hlt
  rw [hone]
  exact (holds_toFloat hpos hlt).mul_one (by omega) (by omega)

end Double

end ClusterScaling
