import ClusterScaling.Decimal.Binary64

/-!
# The shortest decimals that read back

A double that is written out without a count of decimals gets the fewest
digits that still read back as the same double, and of several such
numbers the nearest one; a tie goes to the larger. The reals that read
back as a double form an interval around it, ends included exactly when
its significand is even, so the search looks, grid by grid, whether one
of the two neighbours of the value on that grid lies in the interval.
-/

namespace ClusterScaling.Decimal

/-- Decimal digits without trailing zeros, and the place of the point: the number is
`0.d₁d₂… · 10 ^ point`. -/
structure Digits where
  /-- The digits, the first of which is not zero. -/
  digits : List Char
  /-- The power of ten that the point stands for. -/
  point : Int
  deriving Repr, DecidableEq

/-- The least `p` with `num / den < 10 ^ p`, for a positive quotient. -/
def magnitude (num den : Nat) : Int :=
  if den ≤ num then (Nat.toDigits 10 (num / den)).length
  else
    let d := (Nat.toDigits 10 (den / num)).length
    if den ≤ num * Nat.pow 10 (d - 1) then 2 - (d : Int) else 1 - (d : Int)

/-- The quotient `num / den` in units of `10 ^ s`, as a quotient again. -/
def inUnits (num den : Nat) (s : Int) : Nat × Nat :=
  if 0 ≤ s then (num, den * Nat.pow 10 s.toNat) else (num * Nat.pow 10 (-s).toNat, den)

/-- A grid point in the interval nearest to the value: one of the two
neighbours of the value on the grid of multiples of `10 ^ s`. The
interval and the value are quarters of a unit in the last place over a
common denominator. -/
def onGrid? (low value high den : Nat) (closed : Bool) (s : Int) : Option Nat :=
  let (v, d) := inUnits value den s
  let (l, _) := inUnits low den s
  let (h, _) := inUnits high den s
  let below := v / d
  let inside (c : Nat) : Bool :=
    if closed then l ≤ c * d && c * d ≤ h else l < c * d && c * d < h
  let above := below + 1
  match inside below, inside above with
  | true, true => if above * d - v ≤ v - below * d then some above else some below
  | true, false => some below
  | false, true => some above
  | false, false => none

/-- The first grid, from one digit on, with a point in the interval. -/
def search (low value high den : Nat) (closed : Bool) (p : Int) : Nat → Nat → Nat × Int
  | _, 0 => (value, 0)
  | k, fuel + 1 =>
    match onGrid? low value high den closed (p - k) with
    | some c => (c, p - k)
    | none => search low value high den closed p (k + 1) fuel

/-- The shortest digits of a positive finite double. Seventeen digits
always suffice. -/
def shortest (x : Float) : Digits :=
  let b := Binary64.parts x
  let quarter := Binary64.scaled 1 (b.exponent - 2)
  let least := b.significand == 1 <<< 52 && b.exponent != -1074
  let value := 4 * b.significand * quarter.1
  let high := (4 * b.significand + 2) * quarter.1
  let low := (4 * b.significand - (if least then 1 else 2)) * quarter.1
  let p := magnitude value quarter.2
  let (c, s) := search low value high quarter.2 (b.significand % 2 == 0) p 1 17
  let ds := Nat.toDigits 10 c
  ⟨(ds.reverse.dropWhile (· == '0')).reverse, s + ds.length⟩

/-- Digits written positionally, without an exponent. -/
def Digits.positional (d : Digits) : List Char :=
  if d.point ≤ 0 then '0' :: '.' :: List.replicate (-d.point).toNat '0' ++ d.digits
  else
    let n := d.point.toNat
    if d.digits.length ≤ n then d.digits ++ List.replicate (n - d.digits.length) '0'
    else d.digits.take n ++ '.' :: d.digits.drop n

/-- A double written out in full: no exponent, no superfluous digit, and no point behind an
integer. -/
def plain (x : Float) : String :=
  if x.isNaN then "NaN"
  else
    let sign := if Binary64.signed x then "-" else ""
    if x.isInf then sign ++ "inf"
    else if x == 0.0 then sign ++ "0"
    else sign ++ String.ofList (shortest x.abs).positional

end ClusterScaling.Decimal
