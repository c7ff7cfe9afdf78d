/-!
# Blank characters

Durations, targets and weights are written by hand, so what surrounds a
number is trimmed before the number is read. A character is **blank**
exactly when it has the `White_Space` property of the Unicode character
database; the ranges of that property are listed here once, and every
reader of the library trims with them.

Text is handled as a list of characters: a reader consumes from the
front, and what is left over is again a list.
-/

namespace ClusterScaling.Text

/-- The code point ranges of the `White_Space` property, ends included. -/
def blankRanges : List (Nat × Nat) :=
  [(0x09, 0x0D), (0x20, 0x20), (0x85, 0x85), (0xA0, 0xA0), (0x1680, 0x1680), (0x2000, 0x200A),
    (0x2028, 0x2029), (0x202F, 0x202F), (0x205F, 0x205F), (0x3000, 0x3000)]

/-- Whether a character has the `White_Space` property. -/
def isBlank (c : Char) : Bool :=
  blankRanges.any fun r => r.1 ≤ c.toNat && c.toNat ≤ r.2

/-- A text without the blanks at its two ends. -/
def trim (cs : List Char) : List Char :=
  ((cs.dropWhile isBlank).reverse.dropWhile isBlank).reverse

/-- What stands before an ending, when the text has that ending. -/
def dropEnding? (ending cs : List Char) : Option (List Char) :=
  if ending.isSuffixOf cs then some (cs.take (cs.length - ending.length)) else none

@[simp]
theorem trim_nil : trim [] = [] := rfl

theorem dropEnding?_append (cs ending : List Char) :
    dropEnding? ending (cs ++ ending) = some cs := by
  simp [dropEnding?]

end ClusterScaling.Text
