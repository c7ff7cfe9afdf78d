import ClusterScaling.Decimal.Fixed
import ClusterScaling.Decimal.Literal
import ClusterScaling.Text.Blank

/-!
# Durations

A duration is a whole number of nanoseconds whose seconds fit in 64
bits. Windows, cooldowns, periods and timeouts are durations; moments in
time are not, they are milliseconds on a clock, so the module also says
how a duration is cut to milliseconds.

People write durations as a decimal number and a unit, `ms`, `s`, `m` or
`h`, or as a bare count of seconds: `ofText?`. A number is multiplied by
its unit as a double and only the product is rounded to nanoseconds.
Two texts lead back: `canonical` writes whole seconds or whole
milliseconds, the form in which settings are saved, and `display` writes
every nanosecond in the largest unit that keeps the integral part
positive, the form in which reasons and errors mention a duration.
-/

namespace ClusterScaling

/-- A length of time: nanoseconds, with less than `2 ^ 64` whole seconds. -/
structure Duration where
  /-- The length in nanoseconds. -/
  nanos : Nat
  /-- The whole seconds fit in 64 bits. -/
  bounded : nanos < UInt64.size * 1000000000 := by decide
  deriving DecidableEq

namespace Duration

/-- The duration of a count of nanoseconds, if it is not too long. -/
def ofNanos? (n : Nat) : Option Duration :=
  if h : n < UInt64.size * 1000000000 then some ⟨n, h⟩ else none

/-- The duration of a count of milliseconds. -/
def ofMillis (ms : UInt64) : Duration :=
  ⟨ms.toNat * 1000000, by have := ms.toNat_lt_size; omega⟩

/-- The duration of a small count of seconds. -/
def ofSeconds (s : UInt32) : Duration :=
  ⟨s.toNat * 1000000000, by have := s.toNat_lt; simp only [UInt64.size]; omega⟩

/-- No time at all. -/
def zero : Duration := ⟨0, by decide⟩

instance : Inhabited Duration := ⟨zero⟩

/-- Whole seconds. -/
def seconds (d : Duration) : Nat := d.nanos / 1000000000

/-- The nanoseconds beyond the whole seconds. -/
def subsecondNanos (d : Duration) : Nat := d.nanos % 1000000000

/-- Whole milliseconds. -/
def millis (d : Duration) : Nat := d.nanos / 1000000

/-- Whole milliseconds on a 64 bit clock: what does not fit is cut off. -/
def clockMillis (d : Duration) : UInt64 := UInt64.ofNat d.millis

/-- The length in seconds, as a double. -/
def toSeconds (d : Duration) : Float :=
  (UInt64.ofNat d.seconds).toFloat + (UInt64.ofNat d.subsecondNanos).toFloat / 1000000000.0

/-- Whether no time passes. -/
def isZero (d : Duration) : Bool := d.nanos == 0

instance : LE Duration := ⟨fun a b => a.nanos ≤ b.nanos⟩
instance : LT Duration := ⟨fun a b => a.nanos < b.nanos⟩
instance (a b : Duration) : Decidable (a ≤ b) := inferInstanceAs (Decidable (a.nanos ≤ b.nanos))
instance (a b : Duration) : Decidable (a < b) := inferInstanceAs (Decidable (a.nanos < b.nanos))
instance : Max Duration := ⟨fun a b => if a ≤ b then b else a⟩

@[simp]
theorem nanos_ofMillis (ms : UInt64) : (ofMillis ms).nanos = ms.toNat * 1000000 := rfl

@[simp]
theorem millis_ofMillis (ms : UInt64) : (ofMillis ms).millis = ms.toNat := by
  simp [millis]

/-! ## From a double -/

/-- The duration nearest to a number of seconds, a tie going to the even
count of nanoseconds. There is none for a negative number, for one that
is not finite and for one too large. A negative zero is zero. -/
def ofSeconds? (x : Float) : Option Duration :=
  if x.isFinite && 0.0 ≤ x then
    let (num, den) := (Decimal.Binary64.parts x).fraction
    ofNanos? (Decimal.roundHalfEven (num * 1000000000) den)
  else none

/-! ## From text -/

/-- A unit that a duration is written in. -/
inductive Unit where
  /-- Thousandths of a second, `ms`. -/
  | milliseconds
  /-- Seconds, `s`, and the unit of a bare number. -/
  | seconds
  /-- Sixty seconds, `m`. -/
  | minutes
  /-- Sixty minutes, `h`. -/
  | hours
  deriving DecidableEq, Repr

/-- The seconds in a unit. -/
def Unit.scale : Unit → Float
  | .milliseconds => 0.001
  | .seconds => 1.0
  | .minutes => 60.0
  | .hours => 3600.0

/-- The number and the unit of a trimmed text. Both `ms` and `s` end a
count of milliseconds, so `ms` is looked for first. -/
def splitUnit? (cs : List Char) : Option (List Char × Unit) :=
  match Text.dropEnding? ['m', 's'] cs with
  | some r => some (r, .milliseconds)
  | none =>
    match Text.dropEnding? ['s'] cs with
    | some r => some (r, .seconds)
    | none =>
      match Text.dropEnding? ['m'] cs with
      | some r => some (r, .minutes)
      | none => (Text.dropEnding? ['h'] cs).map fun r => (r, .hours)

/-- Whether a text ends in a unit. -/
def hasUnit (text : String) : Bool :=
  (splitUnit? (Text.trim text.toList)).isSome

/-- The duration that a text writes: a finite number that is not
negative, with an optional unit behind it and blanks between and around
them. -/
def ofText? (text : String) : Option Duration := do
  let cs := Text.trim text.toList
  let (number, unit) := (splitUnit? cs).getD (cs, .seconds)
  let value ← Decimal.read? (Text.trim number)
  if value.isFinite && !(value < 0.0) then ofSeconds? (value * unit.scale) else none

/-! ## To text -/

/-- The form in which a duration is saved: whole seconds if it has no
other milliseconds, else whole milliseconds. -/
def canonical (d : Duration) : String :=
  if d.millis % 1000 = 0 then toString (d.millis / 1000) ++ "s" else toString d.millis ++ "ms"

/-- A count of `unit`s of nanoseconds with all its decimals and none
superfluous. -/
def inUnit (nanos unit places : Nat) : String :=
  let rest := nanos % unit
  if rest = 0 then toString (nanos / unit)
  else
    let ds := Nat.toDigits 10 rest
    let padded := List.replicate (places - ds.length) '0' ++ ds
    toString (nanos / unit) ++ "." ++ String.ofList (padded.reverse.dropWhile (· == '0')).reverse

/-- The exact length in the largest unit of which it has at least one. -/
def display (d : Duration) : String :=
  if 1000000000 ≤ d.nanos then inUnit d.nanos 1000000000 9 ++ "s"
  else if 1000000 ≤ d.nanos then inUnit d.nanos 1000000 6 ++ "ms"
  else if 1000 ≤ d.nanos then inUnit d.nanos 1000 3 ++ "µs"
  else toString d.nanos ++ "ns"

end Duration

end ClusterScaling
