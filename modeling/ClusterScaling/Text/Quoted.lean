import ClusterScaling.Text.Unshown

/-!
# Quoted text

An error that mentions a text found in a configuration or in a reply
quotes it, so that its blanks and unshown characters can be seen:
between double quotes, with the five usual short escapes, and with
`\u{…}` and the lower-case hexadecimal code point for every other
character that shows nothing of its own. A single quote stays as it is.
-/

namespace ClusterScaling.Text

/-- The characters that stand for one character inside quotes. -/
def quotedChar (c : Char) : List Char :=
  if c = Char.ofNat 0 then ['\\', '0']
  else if c = '\t' then ['\\', 't']
  else if c = '\r' then ['\\', 'r']
  else if c = '\n' then ['\\', 'n']
  else if c = '"' then ['\\', '"']
  else if c = '\\' then ['\\', '\\']
  else if isEscapedByNumber c then
    ['\\', 'u', Char.ofNat 0x7B] ++ Nat.toDigits 16 c.toNat ++ [Char.ofNat 0x7D]
  else [c]

/-- A text between double quotes, with escapes. -/
def quoted (s : String) : String :=
  String.ofList ('"' :: s.toList.flatMap quotedChar ++ ['"'])

end ClusterScaling.Text
