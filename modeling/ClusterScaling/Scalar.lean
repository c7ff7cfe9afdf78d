import ClusterScaling.Decimal.Binary64

/-!
# The numbers that loads are computed in

A decision about a tier is arithmetic on a handful of numbers: quotients,
a weighted mean, a band around one, and a count rounded up at the end.
None of it depends on what the numbers are, so it is written once over
the operations of `Scalar`. Decisions are taken in doubles, where a live
value may also be an infinity or no number at all; over numbers without
such values and without rounding the same definitions state what the
arithmetic is meant to do.
-/

namespace ClusterScaling

/-- Numbers that loads can be computed in. -/
class Scalar (α : Type) extends Add α, Sub α, Mul α, Div α where
  /-- The number that stands for a double. -/
  ofFloat : Float → α
  /-- Strictly below. -/
  less : α → α → Bool
  /-- Not above. -/
  atMost : α → α → Bool
  /-- The greatest of several numbers. Whatever is no number is passed over, and without any
  number the result is below every number, if there is such a thing. -/
  greatest : List α → α
  /-- The least count that is not below a number, moved into the counts that exist. -/
  countFrom : α → UInt32

namespace Scalar

/-- The greater of two doubles, a number being greater than what is no number. -/
def greater (x y : Float) : Float :=
  if y.isNaN then x else if x.isNaN then y else if x < y then y else x

/-- The least count that is not below a double. -/
def countFromDouble (x : Float) : Nat :=
  if x.isNaN || x ≤ 0.0 then 0
  else if x.isInf then UInt32.size - 1
  else
    let (num, den) := (Decimal.Binary64.parts x).fraction
    min (Decimal.roundUp num den) (UInt32.size - 1)

instance : Scalar Float where
  ofFloat x := x
  less x y := decide (x < y)
  atMost x y := decide (x ≤ y)
  greatest xs := xs.foldl greater (-1.0 / 0.0)
  countFrom x := UInt32.ofNat (countFromDouble x)

/-- The number that stands for a count. -/
def ofCount {α : Type} [Scalar α] (n : UInt32) : α := ofFloat n.toUInt64.toFloat

end Scalar

/-- A number moved into the interval from zero to one; what is no number stays none. -/
def unitClamp (x : Float) : Float := if x < 0.0 then 0.0 else if 1.0 < x then 1.0 else x

end ClusterScaling
