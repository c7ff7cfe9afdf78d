import ClusterScaling.Duration
import ClusterScaling.Table
import ClusterScaling.Text.Quoted

/-!
# Documents and how values are read from them

Settings, metric payloads and advice arrive in two formats that share
one shape: scalars, sequences, and mappings from names to documents. A
`Document` is that shape, with the entries of a mapping in the order in
which they were written. Every type of the library that travels is read
from a document and written to one here or beside its definition, so
neither format is known anywhere else.

A reading fails for a cause, `DecodeError`, and only some causes have a
text of their own: those that name something the author of the document
wrote. How a mapping is read is the same for all record types and held
in `Record`. Its fields are looked up by name, what nobody asks for is
ignored, and a record may also be written as the sequence of its fields
in the order of their declaration.

The formats differ in three small points, and these are a `Manner`. A
reading is a function of the manner, so that a type says once how it is
read and the format is named where a text is.
-/

namespace ClusterScaling

/-- A value of a structured text format. -/
inductive Document where
  /-- No value. -/
  | null
  /-- A truth value. -/
  | flag (b : Bool)
  /-- A number written as an integer. -/
  | integer (n : Int)
  /-- A number written with a point or an exponent. -/
  | real (x : Float)
  /-- A text. -/
  | text (s : String)
  /-- A date, a time or both. -/
  | moment (s : String)
  /-- A token that is well formed and denotes nothing: a number beyond the range of doubles, or a
  text with half of a surrogate pair. -/
  | unreadable
  /-- A sequence of values. -/
  | sequence (items : List Document)
  /-- Named values, in the order in which they were written. -/
  | mapping (entries : List (String × Document))
  /-- Named values up to a name that denotes nothing. -/
  | torn (entries : List (String × Document))
  deriving Inhabited

/-- Why a document is not a value of some type. -/
inductive DecodeError where
  /-- The document has another shape. -/
  | mismatch
  /-- The document can name no variant: it is neither a text nor a mapping with one entry. -/
  | notVariant
  /-- A record is written as a sequence with too many items. -/
  | overlong
  /-- A token that denotes nothing had to be read. -/
  | unreadable
  /-- A required field is missing. -/
  | missing (field : String)
  /-- A field is written twice. -/
  | repeated (field : String)
  /-- A text names none of the variants. -/
  | unknownVariant (given : String) (expected : List String)
  /-- A text writes no duration. -/
  | badDuration (text : String)
  deriving DecidableEq, Repr

namespace DecodeError

/-- The names of variants as an error lists them. -/
def alternatives : List String → String
  | [a] => "`" ++ a ++ "`"
  | [a, b] => "`" ++ a ++ "` or `" ++ b ++ "`"
  | names => "one of " ++ String.intercalate ", " (names.map fun n => "`" ++ n ++ "`")

/-- The text of a cause that names what stands in the document. -/
def message? : DecodeError → Option String
  | missing field => some ("missing field `" ++ field ++ "`")
  | repeated field => some ("duplicate field `" ++ field ++ "`")
  | unknownVariant given expected =>
    some ("unknown variant `" ++ given ++ "`, expected " ++ alternatives expected)
  | badDuration text => some ("invalid duration " ++ Text.quoted text)
  | _ => none

end DecodeError

/-- How a document is read where the formats differ. -/
structure Manner where
  /-- Whether a sequence may go on behind the last field of the record that it writes. -/
  openEnded : Bool
  /-- Whether an empty sequence and an empty mapping stand for nothing. -/
  emptyIsNothing : Bool
  /-- Whether a mapping is read from front to back, so that its first
  entry is looked at before it is known to be the only one. -/
  frontToBack : Bool
  deriving DecidableEq, Repr

/-- The manner that allows nothing and knows every document as a whole. -/
def Manner.strict : Manner := ⟨false, false, false⟩

namespace Document

/-- A value read from a document in some manner, or why there is none. -/
abbrev Decoded (α : Type) := ReaderT Manner (Except DecodeError) α

/-- The failure on a document of another shape. -/
def refuse {α : Type} : Document → Decoded α
  | unreadable => throw .unreadable
  | _ => throw .mismatch

/-- A text. -/
def asText : Document → Decoded String
  | text s => pure s
  | d => refuse d

/-- A truth value. -/
def asFlag : Document → Decoded Bool
  | flag b => pure b
  | d => refuse d

/-- An integer from zero to below a bound. -/
def asNat (bound : Nat) : Document → Decoded Nat
  | integer n => if 0 ≤ n ∧ n.toNat < bound then pure n.toNat else throw .mismatch
  | d => refuse d

/-- A count of replicas. -/
def asCount (d : Document) : Decoded UInt32 := UInt32.ofNat <$> d.asNat UInt32.size

/-- A moment in milliseconds or another large count. -/
def asWide (d : Document) : Decoded UInt64 := UInt64.ofNat <$> d.asNat UInt64.size

/-- A signed number of 64 bits. -/
def asSigned : Document → Decoded Int
  | integer n =>
    if Int64.minValue.toInt ≤ n ∧ n ≤ Int64.maxValue.toInt then pure n else throw .mismatch
  | d => refuse d

/-- The double nearest to an integer. -/
def nearestDouble (n : Int) : Float :=
  if n < 0 then -Decimal.nearest n.natAbs 0 else Decimal.nearest n.natAbs 0

/-- A double, written as any number. -/
def asReal : Document → Decoded Float
  | real x => pure x
  | integer n => pure (nearestDouble n)
  | d => refuse d

/-- A duration, written as a text. -/
def asDuration (d : Document) : Decoded Duration := do
  let s ← d.asText
  match Duration.ofText? s with
  | some t => pure t
  | none => throw (.badDuration s)

/-- A sequence of values of one type. -/
def asList {α : Type} (item : Document → Decoded α) : Document → Decoded (List α)
  | sequence items => items.mapM item
  | d => refuse d

/-- Values of one type under names. -/
def asTable {α : Type} (item : Document → Decoded α) : Document → Decoded (Table α)
  | mapping entries => do
    let es ← entries.mapM fun e => do pure (e.1, ← item e.2)
    pure (Table.ofList es)
  | torn _ => throw .unreadable
  | d => refuse d

/-- A value or nothing. -/
def asOption {α : Type} (item : Document → Decoded α) : Document → Decoded (Option α)
  | null => pure none
  | d => some <$> item d

/-- No value. -/
def asNothing : Document → Decoded Unit
  | null => pure ()
  | sequence [] | mapping [] => do if (← read).emptyIsNothing then pure () else throw .mismatch
  | d => refuse d

/-- One of the variants of an enumeration, by its name. -/
def named {α : Type} (all : List α) (name : α → String) (s : String) : Decoded α :=
  match all.find? fun a => name a = s with
  | some a => pure a
  | none => throw (.unknownVariant s (all.map name))

/-- One of the variants of an enumeration. A mapping of one name to
nothing stands for the name. -/
def asVariant {α : Type} (all : List α) (name : α → String) : Document → Decoded α
  | text s => named all name s
  | mapping [(s, content)] => do
    let a ← named all name s
    asNothing content
    pure a
  | mapping ((s, content) :: _) | torn ((s, content) :: _) => do
    if (← read).frontToBack then
      let _ ← named all name s
      asNothing content
    throw .notVariant
  | unreadable | torn [] => throw .unreadable
  | _ => throw .notVariant

/-- The value under a name, the last one if it is written several times. -/
def field? (name : String) : Document → Option Document
  | mapping entries => (entries.reverse.find? fun e => e.1 = name).map (·.2)
  | _ => none

/-! ## Writing -/

/-- A count as a document. -/
def ofCount (n : UInt32) : Document := integer n.toNat

/-- A large count as a document. -/
def ofWide (n : UInt64) : Document := integer n.toNat

/-- A value or nothing as a document. -/
def ofOption {α : Type} (item : α → Document) : Option α → Document
  | none => null
  | some a => item a

/-- Values of one type as a document. -/
def ofList {α : Type} (item : α → Document) (xs : List α) : Document := sequence (xs.map item)

/-- Named values of one type as a document. -/
def ofTable {α : Type} (item : α → Document) (t : Table α) : Document :=
  mapping (t.entries.map fun e => (e.1, item e.2))

/-- A duration as a document. -/
def ofDuration (d : Duration) : Document := text d.canonical

end Document

/-! ## Records -/

open Document

/-- The fields of a record as they stand in a document. -/
structure Record where
  /-- The fields that are present. -/
  fields : List (String × Document)
  /-- Whether the record is written as a sequence. -/
  positional : Bool

namespace Record

/-- The first name that is written twice. -/
def repeated? : List String → Option String
  | [] => none
  | n :: ns => if n ∈ ns then some n else repeated? ns

/-- The fields of the given names in a document. A moment counts as a
mapping that has none of them. -/
def ofDocument (names : List String) : Document → Decoded Record
  | .mapping entries =>
    let known := entries.filter fun e => e.1 ∈ names
    match repeated? (known.map (·.1)) with
    | some name => throw (.repeated name)
    | none => pure ⟨known, false⟩
  | .sequence items => do
    if names.length < items.length && !(← MonadReader.read).openEnded then throw .overlong
    pure ⟨names.zip items, true⟩
  | .moment _ => pure ⟨[], false⟩
  | .torn _ => throw .unreadable
  | d => d.refuse

/-- The value of a field, if the field is present. -/
def read {α : Type} (r : Record) (name : String) (item : Document → Decoded α) :
    Decoded (Option α) :=
  match Table.lookup name r.fields with
  | some d => some <$> item d
  | none => pure none

/-- A field that has to be present. A sequence that is too short has no
field to name. -/
def required {α : Type} (r : Record) (name : String) : Option α → Decoded α
  | some a => pure a
  | none => throw (if r.positional then .mismatch else .missing name)

/-- A field that may be absent only from a mapping. -/
def nullable {α : Type} (r : Record) : Option (Option α) → Decoded (Option α)
  | some a => pure a
  | none => if r.positional then throw .mismatch else pure none

end Record

end ClusterScaling
