import ReadyPin.Text.Printable

/-!
# Quoted text

Messages show a piece of foreign text between double quotes, so that its end and every invisible character in
it can be seen. `Quoted.quote` writes that form: a quote and a backslash get a backslash before them, line ends,
tab and NUL their letters, and every other character without a shape of its own is written by its number.

In the program: a string as it is shown for debugging.
-/

namespace ReadyPin.Quoted

/-- The digits of a number in base 16, in lower case and without leading zeros. -/
def hex (n : Nat) : List Char := Nat.toDigits 16 n

/-- One character between quotes. -/
def escape (c : Char) : List Char :=
  if c = '"' then ['\\', '"']
  else if c = '\\' then ['\\', '\\']
  else if c = '\n' then ['\\', 'n']
  else if c = '\r' then ['\\', 'r']
  else if c = '\t' then ['\\', 't']
  else if c = '\x00' then ['\\', '0']
  else if Printable.isPrintable c then [c]
  else '\\' :: 'u' :: '\x7b' :: hex c.toNat ++ ['\x7d']

/-- A text between double quotes. -/
def quote (s : String) : String :=
  String.ofList ('"' :: s.toList.flatMap escape ++ ['"'])

end ReadyPin.Quoted
