import ReadyPin.Text.Utf8

/-!
# Values in a query

A value in the query of a request is written byte by byte: letters, digits and `*`, `-`, `.`, `_` as they are, a
space as `+`, and every other byte as `%` with two hexadecimal digits in upper case.

In the program: how the client of `kube` writes the token under which a list goes on.
-/

namespace ReadyPin.FormEncoding

/-- Whether a byte is written as it is. -/
def isPlain (b : UInt8) : Bool :=
  (0x30 ≤ b && b ≤ 0x39) || (0x41 ≤ b && b ≤ 0x5A) || (0x61 ≤ b && b ≤ 0x7A)
    || b == 0x2A || b == 0x2D || b == 0x2E || b == 0x5F

/-- A hexadecimal digit in upper case. -/
def hexDigit (n : Nat) : Char := (Nat.digitChar n).toUpper

/-- The characters of one byte. -/
def encodeByte (b : UInt8) : List Char :=
  if isPlain b then [.ofNat b.toNat]
  else if b = 0x20 then ['+']
  else ['%', hexDigit (b.toNat / 16), hexDigit (b.toNat % 16)]

/-- A value as it is written in a query. -/
def encode (value : String) : String := String.ofList ((Utf8.bytes value).flatMap encodeByte)

end ReadyPin.FormEncoding
