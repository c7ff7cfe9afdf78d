/-!
# Doubles as exact fractions

Every text of a number that the library writes is decided by the exact
value of a double, never by another rounded computation. A finite double
is a sign and a magnitude `m · 2 ^ q` with natural `m` and integer `q`;
`Binary64.parts` reads the two off the bit pattern, and `fraction` turns
the magnitude into a quotient of naturals, on which rounding is decided
by natural arithmetic alone.
-/

namespace ClusterScaling.Decimal

/-- The exact magnitude `significand · 2 ^ exponent` of a finite double, and its sign. -/
structure Binary64 where
  /-- Whether the sign bit is set. -/
  negative : Bool
  /-- The integral significand, below `2 ^ 53`. -/
  significand : Nat
  /-- The power of two that scales the significand. -/
  exponent : Int
  deriving Repr, DecidableEq

namespace Binary64

/-- Whether the sign bit is set; a zero and an infinity have signs too. -/
def signed (x : Float) : Bool :=
  x.toBits >>> 63 == 1

/-- The sign, significand and exponent of a finite double. Subnormal
numbers share the exponent of the least normal ones and have no hidden
bit. -/
def parts (x : Float) : Binary64 :=
  let biased := ((x.toBits >>> 52) &&& 0x7FF).toNat
  let fraction := (x.toBits &&& 0xFFFFFFFFFFFFF).toNat
  if biased = 0 then ⟨signed x, fraction, -1074⟩
  else ⟨signed x, fraction + 1 <<< 52, (biased : Int) - 1075⟩

/-- `m · 2 ^ q` as a numerator and a positive denominator. -/
def scaled (m : Nat) (q : Int) : Nat × Nat :=
  if 0 ≤ q then (m <<< q.toNat, 1) else (m, 1 <<< (-q).toNat)

/-- The magnitude of a finite double as a numerator and a denominator. -/
def fraction (b : Binary64) : Nat × Nat :=
  scaled b.significand b.exponent

theorem scaled_den_pos (m : Nat) (q : Int) : 0 < (scaled m q).2 := by
  unfold scaled
  split
  · exact Nat.one_pos
  · rw [Nat.one_shiftLeft]
    exact Nat.two_pow_pos _

end Binary64

/-- The quotient of two naturals rounded to the nearest one, a half going to the even neighbour. -/
def roundHalfEven (num den : Nat) : Nat :=
  let q := num / den
  let r := num % den
  if den < 2 * r || (2 * r == den && q % 2 == 1) then q + 1 else q

/-- The quotient of two naturals rounded up. -/
def roundUp (num den : Nat) : Nat :=
  (num + (den - 1)) / den

/-- **Rounding is exact where nothing has to be rounded.** -/
theorem roundHalfEven_of_dvd (n : Nat) {den : Nat} (h : 0 < den) :
    roundHalfEven (n * den) den = n := by
  simp [roundHalfEven, Nat.mul_div_cancel _ h, Nat.mul_mod_left]
  omega

end ClusterScaling.Decimal
