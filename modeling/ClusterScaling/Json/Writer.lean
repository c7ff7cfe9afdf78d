import ClusterScaling.Decimal.Shortest
import ClusterScaling.Document

/-!
# Writing JSON

A document is written without blanks. A double gets its shortest digits
and at least one decimal, so that it reads back as a double and not as an
integer; JSON has no text for a double that is not finite, and `null`
stands for it. Inside a text a character is escaped only where it has to
be: the quote, the backslash and the control characters.
-/

namespace ClusterScaling.Json

/-- A hexadecimal digit. -/
def hexDigit (n : Nat) : Char := Nat.digitChar n

/-- A character inside quotes. -/
def escapedChar (c : Char) : List Char :=
  if c = '"' then ['\\', '"']
  else if c = '\\' then ['\\', '\\']
  else if c = '\n' then ['\\', 'n']
  else if c = '\r' then ['\\', 'r']
  else if c = '\t' then ['\\', 't']
  else if c.toNat = 8 then ['\\', 'b']
  else if c.toNat = 12 then ['\\', 'f']
  else if c.toNat < 0x20 then
    ['\\', 'u', '0', '0', hexDigit (c.toNat / 16), hexDigit (c.toNat % 16)]
  else [c]

/-- A text between quotes. -/
def quotedForm (s : String) : List Char := '"' :: s.toList.flatMap escapedChar ++ ['"']

/-- A double with at least one decimal. -/
def realForm (x : Float) : List Char :=
  if x.isFinite then
    let digits := (Decimal.plain x).toList
    if '.' ∈ digits then digits else digits ++ ['.', '0']
  else "null".toList

/-- Pieces with commas between them. -/
def commaJoined : List (List Char) → List Char
  | [] => []
  | [a] => a
  | a :: rest => a ++ ',' :: commaJoined rest

/-- A document as text. A token that denotes nothing is written as no value. -/
def form : Document → List Char
  | .null | .unreadable | .torn _ => "null".toList
  | .flag b => if b then "true".toList else "false".toList
  | .integer n => (toString n).toList
  | .real x => realForm x
  | .text s | .moment s => quotedForm s
  | .sequence items => '[' :: commaJoined (items.attach.map fun d => form d.1) ++ [']']
  | .mapping entries =>
    '\x7b' :: commaJoined (entries.attach.map fun e => quotedForm e.1.1 ++ ':' :: form e.1.2) ++
      ['\x7d']
  termination_by d => sizeOf d
  decreasing_by
    · have := List.sizeOf_lt_of_mem d.2
      simp only [Document.sequence.sizeOf_spec]
      omega
    · have h := List.sizeOf_lt_of_mem e.2
      have : sizeOf e.1.2 < sizeOf e.1 := by
        rcases e.1 with ⟨a, b⟩
        simp only [Prod.mk.sizeOf_spec]
        omega
      simp only [Document.mapping.sizeOf_spec]
      omega

/-- The text of a document. -/
def write (d : Document) : String := String.ofList (form d)

end ClusterScaling.Json
