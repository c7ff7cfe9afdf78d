import ClusterScaling.Decimal.Shortest
import ClusterScaling.Document

/-!
# Writing TOML

A document is written as a person would lay it out. The values of a table
stand under its header, one on a line, and its tables follow with headers
of their own, an empty line before each; a table that holds nothing but
tables needs no header. A sequence of tables is written as an array of
tables, every other sequence in brackets, on several lines if it has more
than one item.

Texts are quoted as lightly as possible. A `Quoting` says which quotes
are used, how often, and thereby what may stand between them; of those
that need no escape the first in a fixed order is taken, and only a text
that every one of them would have to escape is written with escapes.
-/

namespace ClusterScaling.Toml

/-! ## Texts -/

/-- The single quote. -/
def tick : Char := Char.ofNat 0x27

/-- How a text is quoted. -/
structure Quoting where
  /-- Whether the text is written verbatim, between single quotes. -/
  verbatim : Bool
  /-- Whether the quotes are tripled, so that the text may have several lines. -/
  long : Bool
  deriving DecidableEq, Repr

/-- Whether a character can only be written by an escape, wherever it stands. -/
def isControl (c : Char) : Bool :=
  c != '\t' && c != '\n' && (c.toNat < 0x20 || c.toNat == 0x7F)

/-- The longest run of a character in a text. -/
def longestRun (x : Char) (cs : List Char) : Nat :=
  (cs.foldl (fun (st : Nat × Nat) c =>
    let run := if c == x then st.2 + 1 else 0
    (max st.1 run, run)) (0, 0)).1

namespace Quoting

/-- The quote. -/
def quote (q : Quoting) : Char := if q.verbatim then tick else '"'

/-- How many quotes may stand in a row inside the text. -/
def room (q : Quoting) : Nat := if q.long then 2 else 0

/-- Whether a text needs no escape. -/
def suits (q : Quoting) (cs : List Char) : Bool :=
  !cs.any isControl && (q.verbatim || !cs.contains '\\') && (q.long || !cs.contains '\n') &&
    longestRun q.quote cs ≤ q.room

/-- The quotes that may be used, the best first. -/
def all : List Quoting := [⟨false, false⟩, ⟨true, false⟩, ⟨false, true⟩, ⟨true, true⟩]

/-- The quotes of a text. -/
def ofText (cs : List Char) : Quoting :=
  (all.find? (·.suits cs)).getD ⟨false, cs.contains '\n'⟩

/-- The quotes of a name, which has one line. -/
def ofName (cs : List Char) : Quoting :=
  ((all.filter (!·.long)).find? (·.suits cs)).getD ⟨false, false⟩

end Quoting

/-- The upper-case hexadecimal digits of a code point, four at least. -/
def fourHex (n : Nat) : List Char :=
  let ds := (Nat.toDigits 16 n).map Char.toUpper
  List.replicate (4 - ds.length) '0' ++ ds

/-- A character between double quotes that is no quote itself. -/
def escapedChar (long : Bool) (c : Char) : List Char :=
  if c.toNat = 8 then ['\\', 'b']
  else if c = '\t' then ['\\', 't']
  else if c = '\n' then if long then ['\n'] else ['\\', 'n']
  else if c.toNat = 12 then ['\\', 'f']
  else if c = '\r' then ['\\', 'r']
  else if c = '\\' then ['\\', '\\']
  else if isControl c then '\\' :: 'u' :: fourHex c.toNat
  else [c]

/-- A text between double quotes, behind so many of them. As many as may
stand in a row are left as they are and the next one is escaped. -/
def escaped (q : Quoting) (run : Nat) : List Char → List Char
  | [] => []
  | c :: cs =>
    if c = '"' then
      if run < q.room then '"' :: escaped q (run + 1) cs else '\\' :: '"' :: escaped q 0 cs
    else escapedChar q.long c ++ escaped q 0 cs

/-- A text in quotes. A line break behind tripled quotes does not belong to the text. -/
def Quoting.form (q : Quoting) (cs : List Char) : List Char :=
  let mark := List.replicate (if q.long then 3 else 1) q.quote
  mark ++ (if q.long && cs.contains '\n' then ['\n'] else []) ++
    (if q.verbatim then cs else escaped q 0 cs) ++ mark

/-- A text in its quotes. -/
def quotedForm (s : String) : List Char := (Quoting.ofText s.toList).form s.toList

/-! ## Values -/

/-- A double, with a decimal if it is finite. -/
def realForm (x : Float) : List Char :=
  if x.isNaN then "nan".toList
  else
    let digits := (Decimal.plain x).toList
    if x.isInf || digits.contains '.' then digits else digits ++ ['.', '0']

/-- A name, in quotes if it has to be. -/
def nameForm (s : String) : List Char :=
  let cs := s.toList
  if !cs.isEmpty && cs.all fun c => c.isAlphanum || c == '_' || c == '-' then cs
  else (Quoting.ofName cs).form cs

/-- Items in brackets. -/
def bracketed : List (List Char) → List Char
  | [] => ['[', ']']
  | [item] => '[' :: item ++ [']']
  | items => '[' :: items.flatMap (fun item => "\n    ".toList ++ item ++ [',']) ++ ['\n', ']']

/-- Pieces with a separator between them. -/
def joined (separator : List Char) : List (List Char) → List Char
  | [] => []
  | [a] => a
  | a :: rest => a ++ separator ++ joined separator rest

/-- A value behind an equals sign. -/
def valueForm : Document → List Char
  | .null | .unreadable | .torn _ => []
  | .flag b => if b then "true".toList else "false".toList
  | .integer n => (toString n).toList
  | .real x => realForm x
  | .text s => quotedForm s
  | .moment s => s.toList
  | .sequence items => bracketed (items.attach.map fun d => valueForm d.1)
  | .mapping entries =>
    let pairs := entries.attach.map fun e => nameForm e.1.1 ++ " = ".toList ++ valueForm e.1.2
    '\x7b' :: ' ' :: joined [',', ' '] pairs ++ [' ', '\x7d']
  termination_by d => sizeOf d
  decreasing_by
    · have := List.sizeOf_lt_of_mem d.2
      simp only [Document.sequence.sizeOf_spec]
      omega
    · have h := List.sizeOf_lt_of_mem e.2
      have : sizeOf e.1.2 < sizeOf e.1 := by
        rcases e.1 with ⟨a, b⟩
        simp only [Prod.mk.sizeOf_spec]
        omega
      simp only [Document.mapping.sizeOf_spec]
      omega

/-! ## Tables -/

/-- A header and the values under it. -/
structure Section where
  /-- The names on the way to the table; none for the root. -/
  path : List String
  /-- Whether the table belongs to an array of tables. -/
  element : Bool
  /-- The values, which are no tables. -/
  values : List (String × Document)

/-- Whether a document is a table. -/
def isTable : Document → Bool
  | .mapping _ => true
  | _ => false

/-- Whether a document is written under headers of its own. -/
def hasHeaders : Document → Bool
  | .mapping _ => true
  | .sequence items => !items.isEmpty && items.all isTable
  | _ => false

/-- Whether a document is written at all. -/
def isWritten : Document → Bool
  | .null | .unreadable | .torn _ => false
  | _ => true

/-- The sections of a document that stands under a path, in the order in which they are written. -/
def sections (path : List String) (element : Bool) : Document → List Section
  | .mapping entries =>
    let values := entries.filter fun e => isWritten e.2 && !hasHeaders e.2
    let here : List Section :=
      if values.isEmpty && !element && entries.any fun e => isWritten e.2 then []
      else [⟨path, element, values⟩]
    here ++ entries.attach.flatMap fun e =>
      if hasHeaders e.1.2 then sections (path ++ [e.1.1]) false e.1.2 else []
  | .sequence items => items.attach.flatMap fun d => sections path true d.1
  | _ => []
  termination_by d => sizeOf d
  decreasing_by
    · have h := List.sizeOf_lt_of_mem e.2
      have : sizeOf e.1.2 < sizeOf e.1 := by
        rcases e.1 with ⟨a, b⟩
        simp only [Prod.mk.sizeOf_spec]
        omega
      simp only [Document.mapping.sizeOf_spec]
      omega
    · have := List.sizeOf_lt_of_mem d.2
      simp only [Document.sequence.sizeOf_spec]
      omega

/-- A section on lines. -/
def Section.form (s : Section) : List Char :=
  let path := joined ['.'] (s.path.map nameForm)
  let header := if s.path.isEmpty then []
    else if s.element then ['[', '['] ++ path ++ [']', ']', '\n']
    else '[' :: path ++ [']', '\n']
  header ++ s.values.flatMap fun e => nameForm e.1 ++ " = ".toList ++ valueForm e.2 ++ ['\n']

/-- The text of a document, which has to be a table. -/
def write (d : Document) : String :=
  String.ofList (joined ['\n'] ((sections [] false d).map Section.form))

end ClusterScaling.Toml
