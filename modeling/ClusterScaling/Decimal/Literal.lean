/-!
# Reading decimal literals

A decimal literal is an optional sign followed by one of the words `inf`,
`infinity` and `nan`, in any mixture of cases, or by digits with at most
one decimal point, at least one digit on either side of it, and an
optional exponent. It denotes the double nearest to the number it
writes, so the reader keeps the digits exactly until the last step.

`Literal` is the grammar's result and `Literal.value` its meaning: the
digits as one natural number and the power of ten that scales it.
-/

namespace ClusterScaling.Decimal

/-- What a decimal literal writes. -/
inductive Literal where
  /-- The literal has no number to denote. -/
  | undefined
  /-- An infinity of the given sign. -/
  | unbounded (negative : Bool)
  /-- A signed natural number times a power of ten. -/
  | finite (negative : Bool) (digits : Nat) (exponent : Int)
  deriving Repr, DecidableEq

/-- The number that a run of decimal digits writes. -/
def ofDigits (cs : List Char) : Nat :=
  cs.foldl (fun n c => 10 * n + (c.toNat - '0'.toNat)) 0

/-- How many decimal digits a natural number has; zero has one. -/
def digitCount (n : Nat) : Nat :=
  (Nat.toDigits 10 n).length

/-- The double nearest to `digits · 10 ^ exponent`. The two cuts only
spare the powers of ten that no double can tell from an infinity or from
zero. -/
def nearest (digits : Nat) (exponent : Int) : Float :=
  if digits = 0 then 0.0
  else
    let lead := (digitCount digits : Int) + exponent
    if 400 < lead then 1.0 / 0.0
    else if lead < -400 then 0.0
    else if 0 ≤ exponent then Float.ofScientific digits false exponent.toNat
    else Float.ofScientific digits true (-exponent).toNat

namespace Literal

/-- The double that a literal denotes. -/
def value : Literal → Float
  | undefined => 0.0 / 0.0
  | unbounded negative => if negative then -1.0 / 0.0 else 1.0 / 0.0
  | finite negative digits exponent =>
    if negative then -nearest digits exponent else nearest digits exponent

/-- A signed run of digits after the exponent mark, and nothing behind it. -/
def exponent? (cs : List Char) : Option Int :=
  let (negative, ds) := match cs with
    | '+' :: r => (false, r)
    | '-' :: r => (true, r)
    | r => (false, r)
  if ds.isEmpty || !ds.all Char.isDigit then none
  else some (if negative then -(ofDigits ds : Int) else ofDigits ds)

/-- The digits of a literal without sign, with its point and exponent. -/
def magnitude? (negative : Bool) (cs : List Char) : Option Literal :=
  let (whole, rest) := cs.span Char.isDigit
  let (part, rest) := match rest with
    | '.' :: r => r.span Char.isDigit
    | r => ([], r)
  if whole.isEmpty && part.isEmpty then none
  else
    let scale : Option Int := match rest with
      | [] => some 0
      | 'e' :: r => exponent? r
      | 'E' :: r => exponent? r
      | _ => none
    scale.map fun e => finite negative (ofDigits (whole ++ part)) (e - part.length)

/-- The literal that a text writes, if it writes one. -/
def ofText? (cs : List Char) : Option Literal :=
  let (negative, body) := match cs with
    | '+' :: r => (false, r)
    | '-' :: r => (true, r)
    | r => (false, r)
  let word := body.map Char.toLower
  if word = "inf".toList || word = "infinity".toList then some (unbounded negative)
  else if word = "nan".toList then some undefined
  else magnitude? negative body

end Literal

/-- The double that a text denotes, if the text is a decimal literal. -/
def read? (cs : List Char) : Option Float :=
  (Literal.ofText? cs).map Literal.value

end ClusterScaling.Decimal
