/-!
# Base64

Bytes as text over 64 characters: three bytes become four characters, and one or two bytes at the end become two
or three characters that are filled up with `=`.

In the program: the `STANDARD` engine of `base64`.
-/

namespace ReadyPin.Base64

/-- The character of a number below 64. -/
def digit (n : Nat) : Char :=
  if n < 26 then .ofNat ('A'.toNat + n)
  else if n < 52 then .ofNat ('a'.toNat + (n - 26))
  else if n < 62 then .ofNat ('0'.toNat + (n - 52))
  else if n = 62 then '+'
  else '/'

/-- The characters of some bytes. -/
def encode : List UInt8 → List Char
  | [] => []
  | [a] =>
    let n := a.toNat * 0x10
    [digit (n / 0x40), digit (n % 0x40), '=', '=']
  | [a, b] =>
    let n := (a.toNat * 0x100 + b.toNat) * 4
    [digit (n / 0x1000), digit (n / 0x40 % 0x40), digit (n % 0x40), '=']
  | a :: b :: c :: rest =>
    let n := a.toNat * 0x10000 + b.toNat * 0x100 + c.toNat
    digit (n / 0x40000) :: digit (n / 0x1000 % 0x40) :: digit (n / 0x40 % 0x40) :: digit (n % 0x40) :: encode rest

/-- The number of a character. -/
def value? (c : Char) : Option Nat :=
  if 'A' ≤ c ∧ c ≤ 'Z' then some (c.toNat - 'A'.toNat)
  else if 'a' ≤ c ∧ c ≤ 'z' then some (c.toNat - 'a'.toNat + 26)
  else if '0' ≤ c ∧ c ≤ '9' then some (c.toNat - '0'.toNat + 52)
  else if c = '+' then some 62
  else if c = '/' then some 63
  else none

/-- The bytes that a text stands for. Filling stands only at the end, and the bits it leaves unused are zero. -/
def decode : List Char → Option (List UInt8)
  | [] => some []
  | [a, b, '=', '='] => do
    let n := (← value? a) * 0x40 + (← value? b)
    if n % 0x10 = 0 then some [.ofNat (n / 0x10)] else none
  | [a, b, c, '='] => do
    let n := ((← value? a) * 0x40 + (← value? b)) * 0x40 + (← value? c)
    if n % 4 = 0 then some [.ofNat (n / 0x400), .ofNat (n / 4 % 0x100)] else none
  | a :: b :: c :: d :: rest => do
    let n := (((← value? a) * 0x40 + (← value? b)) * 0x40 + (← value? c)) * 0x40 + (← value? d)
    let more ← decode rest
    some (.ofNat (n / 0x10000) :: .ofNat (n / 0x100 % 0x100) :: .ofNat (n % 0x100) :: more)
  | _ => none

end ReadyPin.Base64
