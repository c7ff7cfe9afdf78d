/-!
# Percent encoding

A query travels inside a URL, so every byte of its UTF-8 form that is not
one of the unreserved characters is written as a percent sign and two
upper-case hexadecimal digits. Bytes are encoded one by one, so encoding
commutes with concatenation, and nothing in a query can end the value
that it is encoded into.
-/

namespace ClusterScaling.Text

/-- Whether a byte stands for itself in a URL: letters, digits and four marks. -/
def isUnreserved (b : UInt8) : Bool :=
  (0x41 ≤ b && b ≤ 0x5A) || (0x61 ≤ b && b ≤ 0x7A) || (0x30 ≤ b && b ≤ 0x39) ||
    b == 0x2D || b == 0x5F || b == 0x2E || b == 0x7E

/-- An upper-case hexadecimal digit. -/
def upperHexDigit (n : Nat) : Char := (Nat.digitChar n).toUpper

/-- A byte inside a URL. -/
def percentByte (b : UInt8) : List Char :=
  if isUnreserved b then [Char.ofNat b.toNat]
  else ['%', upperHexDigit (b.toNat / 16), upperHexDigit (b.toNat % 16)]

/-- Bytes inside a URL. -/
def percentBytes (bs : List UInt8) : List Char := bs.flatMap percentByte

/-- A text inside a URL. -/
def percentEncoded (s : String) : String := String.ofList (percentBytes s.toUTF8.toList)

/-- **Encoding commutes with concatenation.** -/
@[simp]
theorem percentBytes_append (as bs : List UInt8) :
    percentBytes (as ++ bs) = percentBytes as ++ percentBytes bs :=
  List.flatMap_append

end ClusterScaling.Text
