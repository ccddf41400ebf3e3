/-!
# Socket addresses

An address with a port, as it stands in options: `192.0.2.1:80` or `[2001:db8::1]:80`. There are no host names.
`SocketAddress.isValid` recognises them; each reader takes its part from the front of the characters, if it is there.

In the program: `parse_addr`.
-/

namespace ReadyPin.SocketAddress

/-! ## 1. Numbers -/

/-- The value of a digit in a base up to sixteen. -/
def digit? (base : Nat) (c : Char) : Option Nat :=
  let n :=
    if '0' ≤ c ∧ c ≤ '9' then c.toNat - '0'.toNat
    else if 'a' ≤ c ∧ c ≤ 'f' then c.toNat - 'a'.toNat + 10
    else if 'A' ≤ c ∧ c ≤ 'F' then c.toNat - 'A'.toNat + 10
    else 16
  if n < base then some n else none

/-- A number below `limit` with all digits that are there, at least one. -/
def number (base limit : Nat) (s : List Char) : Option (List Char × List Char) :=
  let digits := s.takeWhile fun c => (digit? base c).isSome
  let value := digits.foldl (fun n c => base * n + (digit? base c).getD 0) 0
  if digits.isEmpty || limit ≤ value then none else some (digits, s.dropWhile fun c => (digit? base c).isSome)

/-- One given character. -/
def one (c : Char) : List Char → Option (List Char)
  | d :: s => if d = c then some s else none
  | [] => none

/-! ## 2. Addresses -/

/-- A part of an address, after its separator unless it is the first part. -/
def separated {α : Type} (separator : Char) (first : Bool) (read : List Char → Option α) (s : List Char) : Option α :=
  if first then read s else (one separator s).bind read

/-- A number below 256 without leading zeros. -/
def octet (s : List Char) : Option (List Char) := do
  let (digits, rest) ← number 10 256 s
  if 1 < digits.length ∧ digits.head? = some '0' then none else some rest

/-- Four numbers with points between them. -/
def ipv4 (s : List Char) : Option (List Char) := do
  let s ← octet s
  let s ← separated '.' false octet s
  let s ← separated '.' false octet s
  separated '.' false octet s

/-- One to four hexadecimal digits. -/
def group (s : List Char) : Option (List Char) := do
  let (digits, rest) ← number 16 0x10000 s
  if digits.length ≤ 4 then some rest else none

/-- How far groups go: how many places they take, whether they end in an address of four numbers, and the rest. -/
structure Groups where
  places : Nat := 0
  mixed : Bool := false
  rest : List Char

/-- Groups with colons between them, up to a number of places. Four numbers may stand for the last two places. -/
def groups : Nat → Bool → List Char → Groups
  | 0, _, s => { rest := s }
  | left + 1, first, s =>
    match if 0 < left then separated ':' first ipv4 s else none with
    | some rest => { places := 2, mixed := true, rest }
    | none =>
      match separated ':' first group s with
      | some rest =>
        let more := groups left false rest
        { more with places := more.places + 1 }
      | none => { rest := s }

/-- Eight groups, or fewer around a double colon that stands for at least one. -/
def ipv6 (s : List Char) : Option (List Char) :=
  let head := groups 8 true s
  if head.places = 8 then some head.rest
  else if head.mixed then none
  else do
    let s ← one ':' head.rest
    let s ← one ':' s
    pure (groups (7 - head.places) true s).rest

/-- The number of a network interface, after a percent sign. -/
def scope (s : List Char) : List Char :=
  match (one '%' s).bind (number 10 0x100000000) with
  | some (_, rest) => rest
  | none => s

/-! ## 3. The whole address -/

/-- A port, after a colon. -/
def port (s : List Char) : Option (List Char) := do
  let s ← one ':' s
  let (_, rest) ← number 10 0x10000 s
  pure rest

/-- An address of four numbers, with a port. -/
def withIpv4 (s : List Char) : Option (List Char) := (ipv4 s).bind port

/-- An address of groups in brackets, with a port. -/
def withIpv6 (s : List Char) : Option (List Char) := do
  let s ← one '[' s
  let s ← ipv6 s
  let s ← one ']' (scope s)
  port s

/-- Whether a text is an address with a port. -/
def isValid (text : String) : Bool := ((withIpv4 text.toList) <|> withIpv6 text.toList) == some []

end ReadyPin.SocketAddress
