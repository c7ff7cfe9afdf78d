import ClusterScaling.Text.Hex
import ClusterScaling.Toml.Scalar
import ClusterScaling.Toml.Statement

/-!
# Reading TOML

`Toml.read?` reads a text as a list of statements, one on a line, and
makes a document of them. Readers consume a list of characters from the
front and return what is left. Lines end in a line feed, which a carriage
return may precede; a carriage return elsewhere is refused, and so is
every other control character but the tab.

Values nest, so their reader takes fuel; a value is at least one
character long, so the length of the text is enough. How deep values and
names may nest is limited besides, by `deepest`, and a text that goes
deeper is refused.
-/

namespace ClusterScaling.Toml

/-- Whether a character may stand between tokens of a line. -/
def isSpace (c : Char) : Bool := c == ' ' || c == '\t'

/-- What follows the blanks at the front. -/
def skipSpace (cs : List Char) : List Char := cs.dropWhile isSpace

/-- Whether a character may stand in a comment or in a quoted text. -/
def isShown (c : Char) : Bool := c == '\t' || (0x20 ≤ c.toNat && c.toNat != 0x7F)

/-- What follows an end of line. -/
def afterNewline? : List Char → Option (List Char)
  | '\n' :: cs => some cs
  | '\r' :: '\n' :: cs => some cs
  | _ => none

/-- What follows blanks, ends of lines and comments. -/
def skipTrivia (inComment : Bool) : List Char → List Char
  | [] => []
  | '\r' :: '\n' :: cs => skipTrivia false cs
  | c :: cs =>
    if c == '\n' then skipTrivia false cs
    else if inComment then if isShown c then skipTrivia true cs else c :: cs
    else if isSpace c then skipTrivia false cs
    else if c == '#' then skipTrivia true cs
    else c :: cs

/-- What follows blanks and ends of lines. -/
def skipBlankLines : List Char → List Char
  | [] => []
  | '\r' :: '\n' :: cs => skipBlankLines cs
  | c :: cs => if isSpace c || c == '\n' then skipBlankLines cs else c :: cs

/-- What follows the end of a line: blanks, a comment that may be missing, and the end itself. -/
def afterLine? (cs : List Char) : Option (List Char) :=
  let cs := skipSpace cs
  let cs := match cs with
    | '#' :: r => r.dropWhile isShown
    | r => r
  if cs.isEmpty then some [] else afterNewline? cs

/-! ## Quoted texts -/

/-- The character that an escape writes, behind its backslash, and what follows it. -/
def escape? : List Char → Option (Char × List Char)
  | 'b' :: cs => some (Char.ofNat 8, cs)
  | 't' :: cs => some ('\t', cs)
  | 'n' :: cs => some ('\n', cs)
  | 'f' :: cs => some (Char.ofNat 12, cs)
  | 'r' :: cs => some ('\r', cs)
  | '"' :: cs => some ('"', cs)
  | '\\' :: cs => some ('\\', cs)
  | 'u' :: cs => point? 4 cs
  | 'U' :: cs => point? 8 cs
  | _ => none
where
  /-- A character by a code point of so many digits. -/
  point? (n : Nat) (cs : List Char) : Option (Char × List Char) :=
    if cs.length < n then none
    else do
      let c ← Text.ofCodePoint? (← Text.ofHex? (cs.take n))
      pure (c, cs.drop n)

/-- A text after its opening double quote: its characters in reverse order, and what follows. -/
def basicBody? : Nat → List Char → List Char → Option (List Char × List Char)
  | 0, _, _ => none
  | _ + 1, [], _ => none
  | fuel + 1, c :: cs, seen =>
    if c == '"' then some (seen, cs)
    else if c == '\\' then
      match escape? cs with
      | some (x, r) => basicBody? fuel r (x :: seen)
      | none => none
    else if isShown c then basicBody? fuel cs (c :: seen)
    else none

/-- Whether a backslash before these characters joins two lines. -/
def joinsLines (cs : List Char) : Bool := (afterNewline? (skipSpace cs)).isSome

/-- A text after three opening quotes `q`, up to three closing ones. One
or two quotes may stand inside, also directly before the closing ones. -/
def longBody? (q : Char) (escapes : Bool) :
    Nat → List Char → List Char → Option (List Char × List Char)
  | 0, _, _ => none
  | _ + 1, [], _ => none
  | fuel + 1, c :: cs, seen =>
    if c == q then
      let run := (c :: cs).takeWhile (· == q)
      let rest := (c :: cs).dropWhile (· == q)
      if run.length < 3 then longBody? q escapes fuel rest (run ++ seen)
      else if run.length ≤ 5 then some (run.drop 3 ++ seen, rest)
      else none
    else if c == '\\' && escapes then
      if joinsLines cs then longBody? q escapes fuel (skipBlankLines cs) seen
      else
        match escape? cs with
        | some (x, r) => longBody? q escapes fuel r (x :: seen)
        | none => none
    else
      match afterNewline? (c :: cs) with
      | some r => longBody? q escapes fuel r ('\n' :: seen)
      | none => if isShown c then longBody? q escapes fuel cs (c :: seen) else none

/-- A long text after its opening quotes, without an end of line directly behind them. -/
def longText? (q : Char) (escapes : Bool) (cs : List Char) : Option (List Char × List Char) :=
  let body := (afterNewline? cs).getD cs
  longBody? q escapes (body.length + 1) body []

/-- A text between single quotes after the opening one. -/
def literalBody? (cs : List Char) : Option (List Char × List Char) :=
  let body := cs.takeWhile fun c => c != Char.ofNat 0x27 && isShown c
  match cs.drop body.length with
  | c :: rest => if c == Char.ofNat 0x27 then some (body.reverse, rest) else none
  | [] => none

/-- A quoted text on one line, and what follows it. -/
def shortText? : List Char → Option (String × List Char)
  | c :: cs =>
    let r := if c == '"' then basicBody? (cs.length + 1) cs []
      else if c == Char.ofNat 0x27 then literalBody? cs
      else none
    r.map fun r => (String.ofList r.1.reverse, r.2)
  | [] => none

/-- A quoted text, and what follows it. -/
def quoted? (cs : List Char) : Option (String × List Char) :=
  match cs with
  | c :: d :: e :: rest =>
    if d == c && e == c && (c == '"' || c == Char.ofNat 0x27) then
      (longText? c (c == '"') rest).map fun r => (String.ofList r.1.reverse, r.2)
    else shortText? cs
  | _ => shortText? cs

/-! ## Names -/

/-- Whether a character may stand in a name without quotes. -/
def isBareChar (c : Char) : Bool := c.isAlphanum || c == '_' || c == '-'

/-- A name, and what follows it. -/
def name? (cs : List Char) : Option (String × List Char) :=
  let bare := cs.takeWhile isBareChar
  if bare.isEmpty then shortText? cs
  else some (String.ofList bare, cs.drop bare.length)

/-- How many names a path may have, and how many brackets may be open inside a value. -/
def deepest : Nat := 79

/-- At most so many names with points between them, and what follows them and blanks. -/
def names? : Nat → List Char → Option (List String × List Char)
  | 0, _ => none
  | room + 1, cs => do
    let (name, cs) ← name? (skipSpace cs)
    match skipSpace cs with
    | '.' :: rest => do
      let (names, rest) ← names? room rest
      pure (name :: names, rest)
    | rest => pure ([name], rest)

/-- A path, and what follows it and blanks. -/
def path? (cs : List Char) : Option (List String × List Char) := names? deepest cs

/-! ## Values -/

/-- An unquoted value, and what follows it. A date and a time may have one blank between them. -/
def unquoted? (cs : List Char) : Option (Document × List Char) :=
  let token := cs.takeWhile isScalarChar
  let rest := cs.drop token.length
  let time := (rest.drop 1).takeWhile isScalarChar
  if isDate token && rest.head? == some ' ' && isTimeWithOffset time then
    some (.moment (String.ofList (token ++ ' ' :: time)), (rest.drop 1).drop time.length)
  else (scalar? token).map fun d => (d, rest)

mutual

/-- A value at the front, and what follows it. So many brackets may still be opened. -/
def value? (fuel room : Nat) (cs : List Char) : Option (Document × List Char) :=
  match fuel with
  | 0 => none
  | fuel + 1 =>
    match cs with
    | '[' :: rest => if room = 0 then none else items? fuel (room - 1) (skipTrivia false rest) []
    | '\x7b' :: rest =>
      if room = 0 then none
      else
        match skipSpace rest with
        | '\x7d' :: rest => some (.mapping [], rest)
        | rest => pairs? fuel (room - 1) rest []
    | _ =>
      match quoted? cs with
      | some (s, rest) => some (.text s, rest)
      | none => unquoted? cs

/-- The items of a sequence up to its closing bracket, the ones already
read in reverse. A comma may stand behind the last one. -/
def items? (fuel room : Nat) (cs : List Char) (seen : List Document) :
    Option (Document × List Char) :=
  match fuel with
  | 0 => none
  | fuel + 1 =>
    match cs with
    | ']' :: rest => some (.sequence seen.reverse, rest)
    | cs =>
      match value? fuel room cs with
      | none => none
      | some (d, rest) =>
        match skipTrivia false rest with
        | ',' :: rest => items? fuel room (skipTrivia false rest) (d :: seen)
        | ']' :: rest => some (.sequence (d :: seen).reverse, rest)
        | _ => none

/-- The pairs of an inline table up to its closing brace, the ones already read in reverse. -/
def pairs? (fuel room : Nat) (cs : List Char) (seen : List (List String × Document)) :
    Option (Document × List Char) :=
  match fuel with
  | 0 => none
  | fuel + 1 =>
    match path? cs with
    | some (path, '=' :: rest) =>
      match value? fuel room (skipSpace rest) with
      | none => none
      | some (d, rest) =>
        match skipSpace rest with
        | ',' :: rest => pairs? fuel room rest ((path, d) :: seen)
        | '\x7d' :: rest => (ofPairs? ((path, d) :: seen).reverse).map fun t => (t, rest)
        | _ => none
    | _ => none

end

/-! ## Statements -/

/-- The statement at the front, and what follows its line. -/
def statement? (cs : List Char) : Option (Statement × List Char) :=
  let fuel := cs.length + 1
  match cs with
  | '[' :: '[' :: rest =>
    match path? rest with
    | some (path, ']' :: ']' :: rest) => (afterLine? rest).map fun r => (.element path, r)
    | _ => none
  | '[' :: rest =>
    match path? rest with
    | some (path, ']' :: rest) => (afterLine? rest).map fun r => (.table path, r)
    | _ => none
  | _ =>
    match path? cs with
    | some (path, '=' :: rest) => do
      let (d, rest) ← value? fuel deepest (skipSpace rest)
      (afterLine? rest).map fun r => (.pair path d, r)
    | _ => none

/-- The statements of a text, the ones already read in reverse. -/
def statements? : Nat → List Char → List Statement → Option (List Statement)
  | 0, _, _ => none
  | fuel + 1, cs, seen =>
    match skipTrivia false cs with
    | [] => some seen.reverse
    | rest =>
      match statement? rest with
      | some (s, rest) => statements? fuel rest (s :: seen)
      | none => none

/-- The document that a text writes, if the text is TOML. -/
def read? (text : String) : Option Document :=
  let cs := match text.toList with
    | c :: cs => if c.toNat = 0xFEFF then cs else c :: cs
    | [] => []
  (statements? (cs.length + 1) cs []).bind ofStatements?

/-- TOML has no word for nothing, and an empty table or sequence stands
for it. Items behind the last field of a record are ignored. -/
def manner : Manner := ⟨true, true, false⟩

end ClusterScaling.Toml
