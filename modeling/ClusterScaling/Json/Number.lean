import ClusterScaling.Document

/-!
# Numbers of JSON

A number without point and exponent is an integer if it fits in 64 bits,
with or without a sign. Every other number is a double, obtained in two
steps: as many leading digits as fit in an unsigned 64 bit word form a
significand, and the significand, rounded to a double, is multiplied or
divided by a power of ten. Each step rounds, so a literal of more than
fifteen digits may come out one unit in the last place away from the
nearest double; a number beyond the range of doubles denotes nothing.
-/

namespace ClusterScaling.Json

/-- A literal: its sign, its digits before and behind the point, and its exponent. -/
structure NumberToken where
  /-- Whether a minus sign stands in front. -/
  negative : Bool
  /-- The digits before the point. -/
  whole : List Char
  /-- The digits behind the point, if there is one. -/
  part : Option (List Char)
  /-- The exponent, if there is one. -/
  exponent : Option Int

/-- A significand under construction: its word, the power of ten that it
misses, and whether it is full. -/
structure Significand where
  /-- The digits taken so far. -/
  word : Nat
  /-- The power of ten by which the word has to be multiplied. -/
  scale : Int
  /-- Whether a digit has been dropped because it did not fit. -/
  full : Bool

/-- The value of a digit. -/
def digitValue (c : Char) : Nat := c.toNat - '0'.toNat

/-- Takes a digit before the point. A digit that is dropped still moves the point. -/
def Significand.takeWhole (s : Significand) (c : Char) : Significand :=
  let next := s.word * 10 + digitValue c
  if s.full || UInt64.size ≤ next then ⟨s.word, s.scale + 1, true⟩ else ⟨next, s.scale, false⟩

/-- Takes a digit behind the point, up to the first that does not fit. -/
def Significand.takePart (s : Significand) (c : Char) : Significand :=
  let next := s.word * 10 + digitValue c
  if s.full || UInt64.size ≤ next then ⟨s.word, s.scale, true⟩ else ⟨next, s.scale - 1, false⟩

/-- A power of ten up to `10 ^ 308`. -/
def powerOfTen (n : Nat) : Float := Float.ofScientific 1 false n

/-- Divides by a power of ten, by at most `10 ^ 308` at a time. Once the
quotient is zero it stays zero, which three large divisions reach. -/
def divide (x : Float) : Nat → Nat → Float
  | _, 0 => 0.0
  | n, rounds + 1 =>
    if n ≤ 308 then x / powerOfTen n
    else if x == 0.0 then x
    else divide (x / powerOfTen 308) (n - 308) rounds

/-- A significand times a power of ten, unless it is beyond the doubles. -/
def scaleWord (word : Nat) (scale : Int) : Option Float :=
  let x := (UInt64.ofNat word).toFloat
  if scale < 0 then some (divide x (-scale).toNat 4)
  else if 308 < scale then if word = 0 then some x else none
  else
    let y := x * powerOfTen scale.toNat
    if y.isInf then none else some y

/-- What a literal denotes. -/
def NumberToken.value (t : NumberToken) : Document :=
  let whole := t.whole.foldl Significand.takeWhole ⟨0, 0, false⟩
  let plain := t.part.isNone && t.exponent.isNone && !whole.full
  if plain && !t.negative then .integer whole.word
  else if plain && 0 < whole.word && whole.word ≤ UInt64.size / 2 then
    .integer (-(whole.word : Int))
  else
    let s := (t.part.getD []).foldl Significand.takePart ⟨whole.word, whole.scale, false⟩
    match scaleWord s.word (s.scale + t.exponent.getD 0) with
    | some x => .real (if t.negative then -x else x)
    | none => .unreadable

end ClusterScaling.Json
