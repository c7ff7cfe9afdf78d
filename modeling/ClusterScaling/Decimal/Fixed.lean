import ClusterScaling.Decimal.Binary64

/-!
# Numbers with a fixed count of decimals

The reasons of a decision and the samples of an exposition print numbers
with two, three or four decimals. The last place is decided by the exact
value of the double: it is rounded to the nearest multiple, and a tie
goes to the even one. A negative number keeps its sign also when all its
digits round away.
-/

namespace ClusterScaling.Decimal

/-- A number in hundredths, thousandths, … with the point in its place. -/
def withPoint (places n : Nat) : List Char :=
  let digits := Nat.toDigits 10 n
  let padded := List.replicate (places + 1 - digits.length) '0' ++ digits
  let whole := padded.take (padded.length - places)
  if places = 0 then whole else whole ++ '.' :: padded.drop (padded.length - places)

/-- A double with the given count of decimals. -/
def fixed (places : Nat) (x : Float) : String :=
  if x.isNaN then "NaN"
  else
    let sign := if Binary64.signed x then "-" else ""
    if x.isInf then sign ++ "inf"
    else
      let (num, den) := (Binary64.parts x).fraction
      sign ++ String.ofList (withPoint places (roundHalfEven (num * Nat.pow 10 places) den))

end ClusterScaling.Decimal
