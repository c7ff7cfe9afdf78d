import ClusterScaling.Json.Number
import ClusterScaling.Text.Hex

/-!
# Reading JSON

`Json.read?` reads a text that holds exactly one JSON value with blanks
around it. Whether the text is JSON is decided here, on its own: an
entry of a mapping that no reader asks for has to be well formed, but its
number may be out of range and its text may hold half of a surrogate
pair, which the document records as a token that denotes nothing. A name
may hold such a half too; whoever reads the mapping stops at that name,
so the document keeps the entries before it.

The readers consume a list of characters from the front and return what
is left. Values nest, so their reader takes fuel; a value is at least one
character long, so the length of the text is enough, and `read?` supplies
it. `settled` forgets what a mapping does not keep: the order in which
its entries were written, and all but the last of those with one name.
-/

namespace ClusterScaling.Json

/-- Whether a character may stand between tokens. -/
def isSpace (c : Char) : Bool := c == ' ' || c == '\n' || c == '\t' || c == '\r'

/-- What follows the blanks at the front. -/
def skipSpace (cs : List Char) : List Char := cs.dropWhile isSpace

/-- Four hexadecimal digits, as the code unit they write. -/
def codeUnit? : List Char → Option (Nat × List Char)
  | a :: b :: c :: d :: rest => (Text.ofHex? [a, b, c, d]).map fun n => (n, rest)
  | _ => none

/-- The character that a short escape writes. -/
def shortEscape? (c : Char) : Option Char :=
  match c with
  | '"' => some '"'
  | '\\' => some '\\'
  | '/' => some '/'
  | 'b' => some (Char.ofNat 8)
  | 'f' => some (Char.ofNat 12)
  | 'n' => some '\n'
  | 'r' => some '\r'
  | 't' => some '\t'
  | _ => none

/-- A text after its opening quote: its characters in reverse order,
whether every escape denotes a character, and what follows the closing
quote. -/
def quotedBody? : Nat → List Char → List Char → Bool → Option (List Char × Bool × List Char)
  | 0, _, _, _ => none
  | _ + 1, [], _, _ => none
  | fuel + 1, c :: rest, seen, sound =>
    if c == '"' then some (seen, sound, rest)
    else if c == '\\' then
      match rest with
      | 'u' :: r =>
        match codeUnit? r with
        | none => none
        | some (n, r) =>
          if n < 0xD800 || 0xDFFF < n then quotedBody? fuel r (Char.ofNat n :: seen) sound
          else
            match r with
            | '\\' :: 'u' :: r' =>
              match codeUnit? r' with
              | none => none
              | some (m, r'') =>
                if n < 0xDC00 && 0xDC00 ≤ m && m ≤ 0xDFFF then
                  let point := 0x10000 + (n - 0xD800) * 0x400 + (m - 0xDC00)
                  quotedBody? fuel r'' (Char.ofNat point :: seen) sound
                else quotedBody? fuel r seen false
            | _ => quotedBody? fuel r seen false
      | e :: r =>
        match shortEscape? e with
        | some x => quotedBody? fuel r (x :: seen) sound
        | none => none
      | [] => none
    else if c.toNat < 0x20 then none
    else quotedBody? fuel rest (c :: seen) sound

/-- A text after its opening quote, if it denotes one, and what follows it. -/
def quoted? (cs : List Char) : Option (Option String × List Char) :=
  (quotedBody? (cs.length + 1) cs [] true).map fun r =>
    (if r.2.1 then some (String.ofList r.1.reverse) else none, r.2.2)

/-- The document of a text that may denote nothing. -/
def ofQuoted : Option String → Document
  | some s => .text s
  | none => .unreadable

/-- The entries before the first name that denotes nothing, and whether
all entries are. -/
def namedEntries : List (Option String × Document) → List (String × Document) × Bool
  | [] => ([], true)
  | (none, _) :: _ => ([], false)
  | (some name, d) :: rest =>
    let (entries, whole) := namedEntries rest
    ((name, d) :: entries, whole)

/-- The document of entries whose names may denote nothing. -/
def ofEntries (entries : List (Option String × Document)) : Document :=
  match namedEntries entries with
  | (entries, true) => .mapping entries
  | (entries, false) => .torn entries

/-- At least one digit. -/
def digits? (cs : List Char) : Option (List Char × List Char) :=
  let (ds, rest) := cs.span Char.isDigit
  if ds.isEmpty then none else some (ds, rest)

/-- The exponent of a number, if one stands here. -/
def exponent? : List Char → Option (Option Int × List Char)
  | c :: rest =>
    if c == 'e' || c == 'E' then
      let (negative, rest) := match rest with
        | '+' :: r => (false, r)
        | '-' :: r => (true, r)
        | r => (false, r)
      (digits? rest).map fun r =>
        let n : Int := Decimal.ofDigits r.1
        (some (if negative then -n else n), r.2)
    else some (none, c :: rest)
  | [] => some (none, [])

/-- The digits behind a point, if one stands here. -/
def part? : List Char → Option (Option (List Char) × List Char)
  | '.' :: rest => (digits? rest).map fun r => (some r.1, r.2)
  | cs => some (none, cs)

/-- A number. Its integral part has no superfluous zero in front. -/
def number? (cs : List Char) : Option (Document × List Char) := do
  let (negative, cs) := match cs with
    | '-' :: r => (true, r)
    | r => (false, r)
  let (whole, cs) ← digits? cs
  if whole.head? = some '0' && 1 < whole.length then none
  else
    let (part, cs) ← part? cs
    let (exponent, cs) ← exponent? cs
    pure (NumberToken.value ⟨negative, whole, part, exponent⟩, cs)

/-- What follows a word, if the text starts with it. -/
def afterWord? (word cs : List Char) : Option (List Char) :=
  if word.isPrefixOf cs then some (cs.drop word.length) else none

mutual

/-- A value at the front, after blanks, and what follows it. -/
def value? (fuel : Nat) (cs : List Char) : Option (Document × List Char) :=
  match fuel with
  | 0 => none
  | fuel + 1 =>
    match skipSpace cs with
    | '"' :: rest => (quoted? rest).map fun r => (ofQuoted r.1, r.2)
    | '[' :: rest =>
      match skipSpace rest with
      | ']' :: rest => some (.sequence [], rest)
      | rest => (items? fuel rest []).map fun r => (.sequence r.1, r.2)
    | '\x7b' :: rest =>
      match skipSpace rest with
      | '\x7d' :: rest => some (.mapping [], rest)
      | rest => (entries? fuel rest []).map fun r => (ofEntries r.1, r.2)
    | 'n' :: rest => (afterWord? "ull".toList rest).map fun r => (.null, r)
    | 't' :: rest => (afterWord? "rue".toList rest).map fun r => (.flag true, r)
    | 'f' :: rest => (afterWord? "alse".toList rest).map fun r => (.flag false, r)
    | rest => number? rest
  termination_by (fuel, 0)

/-- The items of a sequence up to its closing bracket, the ones already read in reverse. -/
def items? (fuel : Nat) (cs : List Char) (seen : List Document) :
    Option (List Document × List Char) :=
  match fuel with
  | 0 => none
  | fuel + 1 =>
    match value? fuel cs with
    | none => none
    | some (d, rest) =>
      match skipSpace rest with
      | ',' :: rest => items? fuel rest (d :: seen)
      | ']' :: rest => some ((d :: seen).reverse, rest)
      | _ => none
  termination_by (fuel, 1)

/-- The entries of a mapping up to its closing brace, the ones already read in reverse. -/
def entries? (fuel : Nat) (cs : List Char) (seen : List (Option String × Document)) :
    Option (List (Option String × Document) × List Char) :=
  match fuel with
  | 0 => none
  | fuel + 1 =>
    match skipSpace cs with
    | '"' :: rest =>
      match quoted? rest with
      | some (name, rest) =>
        match skipSpace rest with
        | ':' :: rest =>
          match value? fuel rest with
          | none => none
          | some (d, rest) =>
            match skipSpace rest with
            | ',' :: rest => entries? fuel rest ((name, d) :: seen)
            | '\x7d' :: rest => some (((name, d) :: seen).reverse, rest)
            | _ => none
        | _ => none
      | none => none
    | _ => none
  termination_by (fuel, 1)

end

/-- The document that a text writes, if the text is JSON. -/
def read? (text : String) : Option Document :=
  let cs := text.toList
  match value? (cs.length + 2) cs with
  | some (d, rest) => if (skipSpace rest).isEmpty then some d else none
  | none => none

/-! ## Values of other types -/

/-- A text is read from front to back, and every sequence to its end. -/
def manner : Manner := ⟨false, false, true⟩

/-- Why a text gives no value of some type. -/
inductive ReadError where
  /-- The text is not JSON. -/
  | malformed
  /-- The value has another type. -/
  | content (cause : DecodeError)
  deriving DecidableEq, Repr

/-- Whether the text is to blame, and not what it says. A token that
denotes nothing, a value where a name of a variant has to stand, and an
item too many are faults of the text. -/
def ReadError.isTextual : ReadError → Bool
  | malformed => true
  | content .unreadable | content .notVariant | content .overlong => true
  | content _ => false

/-- A value of some type read from a text. -/
def decode {α : Type} (item : Document → Document.Decoded α) (text : String) : Except ReadError α :=
  match read? text with
  | none => .error .malformed
  | some d =>
    match (item d).run manner with
    | .ok a => .ok a
    | .error cause => .error (.content cause)

/-! ## Documents as values -/

/-- A document as a value of its own: mappings are sorted by name and of
several entries with one name the last counts. -/
def settled : Document → Document
  | .sequence items => .sequence (items.attach.map fun d => settled d.1)
  | .mapping entries =>
    .mapping (Table.ofList (entries.attach.map fun e => (e.1.1, settled e.1.2))).entries
  | d => d
  termination_by d => sizeOf d
  decreasing_by
    · have := List.sizeOf_lt_of_mem d.2
      simp only [Document.sequence.sizeOf_spec]
      omega
    · have h := List.sizeOf_lt_of_mem e.2
      have : sizeOf e.1.2 < sizeOf e.1 := by
        rcases e.1 with ⟨a, b⟩
        simp only [Prod.mk.sizeOf_spec]
        omega
      simp only [Document.mapping.sizeOf_spec]
      omega

end ClusterScaling.Json
