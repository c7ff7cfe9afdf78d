import ClusterScaling.Document

/-!
# Numbers, words and moments of TOML

A value that is neither quoted nor bracketed is a run of letters, digits
and the marks `_ + - . :`, and such a run is one value as a whole:
`scalar?` decides which. An underscore may stand between two digits.
Integers have 64 bits and may be written to the bases two, eight and
sixteen; a number with a point or an exponent is a double, and one beyond
the positive doubles is refused. Dates and times are recognised with all
their ranges checked, and kept as text, because no setting is one.
-/

namespace ClusterScaling.Toml

/-- Whether a character may stand in an unquoted value. -/
def isScalarChar (c : Char) : Bool :=
  c.isAlphanum || c == '_' || c == '+' || c == '-' || c == '.' || c == ':'

/-- The digits of a run in which underscores stand only between digits. -/
def digits? (isDigit : Char → Bool) : List Char → Option (List Char)
  | [] => none
  | [c] => if isDigit c then some [c] else none
  | c :: '_' :: d :: cs => if isDigit c then (digits? isDigit (d :: cs)).map (c :: ·) else none
  | c :: d :: cs => if isDigit c then (digits? isDigit (d :: cs)).map (c :: ·) else none
  termination_by cs => cs.length

/-- A sign, which may be missing, and what follows it. -/
def sign : List Char → Bool × List Char
  | '+' :: cs => (false, cs)
  | '-' :: cs => (true, cs)
  | cs => (false, cs)

/-- Decimal digits without a superfluous zero in front. -/
def decimalDigits? (cs : List Char) : Option (List Char) :=
  match digits? Char.isDigit cs with
  | some ('0' :: _ :: _) => none
  | r => r

/-- The value of a digit to some base. -/
def digitValue (c : Char) : Nat :=
  if c.isDigit then c.toNat - '0'.toNat
  else if 'a' ≤ c then c.toNat - 'a'.toNat + 10 else c.toNat - 'A'.toNat + 10

/-- Whether a character is a digit to a base. -/
def isDigitOf (base : Nat) (c : Char) : Bool := c.isAlphanum && digitValue c < base

/-- An integer, if it fits in 64 bits. -/
def bounded? (n : Int) : Option Document :=
  if Int64.minValue.toInt ≤ n ∧ n ≤ Int64.maxValue.toInt then some (.integer n) else none

/-- A number to another base than ten. -/
def based? (base : Nat) (cs : List Char) : Option Document :=
  (digits? (isDigitOf base) cs).bind fun ds =>
    bounded? (ds.foldl (fun n c => base * n + digitValue c) 0 : Nat)

/-- A decimal integer. -/
def decimal? (cs : List Char) : Option Document :=
  let (negative, body) := sign cs
  (decimalDigits? body).bind fun ds =>
    let n : Int := Decimal.ofDigits ds
    bounded? (if negative then -n else n)

/-- The digits of an exponent behind its mark. -/
def exponent? (cs : List Char) : Option Int :=
  let (negative, body) := sign cs
  (digits? Char.isDigit body).map fun ds =>
    let n : Int := Decimal.ofDigits ds
    if negative then -n else n

/-- Whether a character marks an exponent. -/
def isExponentMark (c : Char) : Bool := c == 'e' || c == 'E'

/-- A number with a point or an exponent. -/
def real? (cs : List Char) : Option Document :=
  let (negative, body) := sign cs
  let (mantissa, exponent) := body.span fun c => !isExponentMark c
  let (whole, part) := mantissa.span (· != '.')
  if exponent.isEmpty && part.isEmpty then none
  else do
    let whole ← decimalDigits? whole
    let part ← if part.isEmpty then some [] else digits? Char.isDigit (part.drop 1)
    let e ← if exponent.isEmpty then some 0 else exponent? (exponent.drop 1)
    let x := (Decimal.Literal.finite negative (Decimal.ofDigits (whole ++ part))
      (e - part.length)).value
    if x.isInf && !negative then none else some (.real x)

/-! ## Moments -/

/-- A number of exactly so many digits at the front. -/
def fixed? (n : Nat) (cs : List Char) : Option (Nat × List Char) :=
  let ds := cs.take n
  if ds.length = n && ds.all Char.isDigit then some (Decimal.ofDigits ds, cs.drop n) else none

/-- What follows a mark. -/
def after? (c : Char) : List Char → Option (List Char)
  | d :: cs => if d = c then some cs else none
  | [] => none

/-- How many days a month has. -/
def daysIn (year month : Nat) : Nat :=
  if month = 2 then
    if year % 4 = 0 ∧ (year % 100 ≠ 0 ∨ year % 400 = 0) then 29 else 28
  else if month = 4 ∨ month = 6 ∨ month = 9 ∨ month = 11 then 30 else 31

/-- What follows a date. -/
def afterDate? (cs : List Char) : Option (List Char) := do
  let (year, cs) ← fixed? 4 cs
  let (month, cs) ← fixed? 2 (← after? '-' cs)
  let (day, cs) ← fixed? 2 (← after? '-' cs)
  if 1 ≤ month ∧ month ≤ 12 ∧ 1 ≤ day ∧ day ≤ daysIn year month then some cs else none

/-- What follows the hours and minutes of a clock. -/
def afterClock? (cs : List Char) : Option (List Char) := do
  let (hour, cs) ← fixed? 2 cs
  let (minute, cs) ← fixed? 2 (← after? ':' cs)
  if hour ≤ 23 ∧ minute ≤ 59 then some cs else none

/-- What follows a time of day. -/
def afterTime? (cs : List Char) : Option (List Char) := do
  let (second, cs) ← fixed? 2 (← after? ':' (← afterClock? cs))
  if 60 < second then none
  else
    match cs with
    | '.' :: r =>
    if (r.takeWhile Char.isDigit).isEmpty then none else some (r.dropWhile Char.isDigit)
    | _ => some cs

/-- Whether a text is nothing or the distance of a local time from the common one. -/
def isOffset : List Char → Bool
  | [] => true
  | [c] => c == 'Z' || c == 'z'
  | c :: cs => (c == '+' || c == '-') && afterClock? cs == some []

/-- Whether a text is a time of day, with or without an offset. -/
def isTimeWithOffset (cs : List Char) : Bool := (afterTime? cs).any isOffset

/-- Whether a text is a date, a time, or both with the usual letter between them. -/
def isMoment (cs : List Char) : Bool :=
  match afterDate? cs with
  | some [] => true
  | some (c :: rest) => (c == 'T' || c == 't') && isTimeWithOffset rest
  | none => afterTime? cs == some []

/-- Whether a text is a date and nothing else. -/
def isDate (cs : List Char) : Bool := afterDate? cs == some []

/-! ## All of them -/

/-- A word that is a value. -/
def word? (s : String) : Option Document :=
  match s with
  | "true" => some (.flag true)
  | "false" => some (.flag false)
  | "inf" | "+inf" => some (.real (1.0 / 0.0))
  | "-inf" => some (.real (-1.0 / 0.0))
  | "nan" | "+nan" | "-nan" => some (.real (0.0 / 0.0))
  | _ => none

/-- The value that an unquoted run of characters is. -/
def scalar? (cs : List Char) : Option Document :=
  match word? (String.ofList cs) with
  | some d => some d
  | none =>
    if isMoment cs then some (.moment (String.ofList cs))
    else
      match cs with
      | '0' :: 'x' :: r => based? 16 r
      | '0' :: 'o' :: r => based? 8 r
      | '0' :: 'b' :: r => based? 2 r
      | _ => if (decimal? cs).isSome then decimal? cs else real? cs

end ClusterScaling.Toml
