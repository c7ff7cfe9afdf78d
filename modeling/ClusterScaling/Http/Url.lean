/-!
# Addresses of web servers

A request goes to an absolute URL of the scheme `http`. It consists of an
authority, which says whom to connect to, and of a path and a query,
which say what to ask for; a fragment is not sent. `Url.ofText?` decides
which texts are such URLs.

The grammar is the one that servers accept, which is wider than the
standard's: a path may hold quotes, braces and characters beyond ASCII.
The authority is narrower: a percent sign may stand only in the user
information, brackets only around a literal address, and at most one
colon outside of both.
-/

namespace ClusterScaling.Http

/-- An absolute address of a web server. -/
structure Url where
  /-- Whom to connect to. -/
  authority : String
  /-- What to ask for: the path and the query. -/
  target : String
  deriving DecidableEq, Repr

namespace Url

/-- Marks that may stand in an authority besides letters, digits and those with a role. -/
def authorityMarks : List Char := "!$&'()*+,-.;=_~".toList

/-- What has been seen of an authority. -/
structure Authority where
  /-- The colons that may start a port. -/
  colons : Nat
  /-- Whether a literal address has begun. -/
  opened : Bool
  /-- Whether a literal address has ended. -/
  closed : Bool
  /-- Whether a percent sign stands outside of the user information. -/
  percent : Bool
  /-- The characters seen, the last one first. -/
  seen : List Char

/-- Nothing has been seen. -/
def Authority.start : Authority := ⟨0, false, false, false, []⟩

/-- One more character of an authority, if it may stand here. User
information and literal addresses have colons of their own. -/
def Authority.next? (a : Authority) (c : Char) : Option Authority :=
  let a' := { a with seen := c :: a.seen }
  if c.isAlphanum || authorityMarks.contains c then some a'
  else if c = ':' then if a.colons < 8 then some { a' with colons := a.colons + 1 } else none
  else if c = '[' then if a.percent || a.opened then none else some { a' with opened := true }
  else if c = ']' then
    if !a.opened || a.closed then none
    else some { a' with closed := true, colons := 0, percent := false }
  else if c = '@' then some { a' with colons := 0, percent := false }
  else if c = '%' then some { a' with percent := true }
  else none

/-- Whether an authority is complete. -/
def Authority.isComplete (a : Authority) : Bool :=
  a.opened == a.closed && a.colons ≤ 1 && a.seen.head? != some '@' && !a.percent

/-- The authority at the front of a text and what follows it. -/
def authority? (a : Authority) : List Char → Option (Authority × List Char)
  | [] => some (a, [])
  | c :: cs =>
    if c = '/' || c = '?' || c = '#' then some (a, c :: cs)
    else
      match a.next? c with
      | some a => authority? a cs
      | none => none

/-- Whether a character may stand in a path. -/
def isPathChar (c : Char) : Bool :=
  let n := c.toNat
  n == 0x21 || n == 0x22 || (0x24 ≤ n && n ≤ 0x3B) || n == 0x3D || (0x40 ≤ n && n ≤ 0x5F) ||
    (0x61 ≤ n && n ≤ 0x7E) || 0x7F < n

/-- Whether a character may stand in a query. -/
def isQueryChar (c : Char) : Bool :=
  let n := c.toNat
  n == 0x21 || (0x24 ≤ n && n ≤ 0x3B) || n == 0x3D || (0x3F ≤ n && n != 0x7F)

/-- The path and the query of a text, without its fragment, if both are well formed. -/
def target? (cs : List Char) : Option (List Char) :=
  let whole := cs.takeWhile (· != '#')
  let path := whole.takeWhile (· != '?')
  let query := whole.drop (path.length + 1)
  if path.all isPathChar && query.all isQueryChar then some whole else none

/-- The scheme of all addresses. -/
def scheme : List Char := "http://".toList

/-- The longest address. -/
def longest : Nat := 65534

/-- The address that a text writes, if it writes one. -/
def ofText? (s : String) : Option Url :=
  let cs := s.toList
  let front := cs.take scheme.length
  if s.utf8ByteSize ≤ longest && front.map Char.toLower = scheme then
    match authority? .start (cs.drop scheme.length) with
    | some (a, rest) =>
      if a.isComplete && !a.seen.isEmpty then
        (target? rest).map fun t => ⟨String.ofList a.seen.reverse, String.ofList t⟩
      else none
    | none => none
  else none

end Url

end ClusterScaling.Http
