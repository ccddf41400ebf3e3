import ReadyPin.Json.Reader

/-!
# Numerals

`Numeral.scan` takes a numeral from the front of the bytes and `Numeral.number` gives its value. A numeral has a
whole part without leading zeros, and optionally a fraction and an exponent with at least one digit each.

Its digits are gathered into a significand while that stays below `2 ^ 64`. Whole digits that no longer fit only
raise the exponent, and fraction digits that no longer fit are dropped.

In the program: how `serde_json` parses a number.
-/

namespace ReadyPin

/-- A numeral by its parts, digits as numbers. -/
structure Numeral where
  negative : Bool
  whole : List Nat
  /-- The digits after the point. -/
  fraction : Option (List Nat)
  /-- Whether the exponent is negative, and its digits. -/
  exponent : Option (Bool × List Nat)
  deriving Repr

namespace Numeral

/-! ## 1. Scanning -/

/-- The digits in front and the bytes after them. -/
def digits (s : List UInt8) : List Nat × List UInt8 :=
  ((s.takeWhile Reader.isDigit).map (fun b => b.toNat - 0x30), s.dropWhile Reader.isDigit)

/-- Digits of which there must be one; `atEnd` is the fault where there are no bytes at all. -/
def someDigits (atEnd : Malformed) (s : List UInt8) : Except Malformed (List Nat × List UInt8) :=
  match s with
  | [] => .error atEnd
  | b :: _ => if Reader.isDigit b then .ok (digits s) else .error .invalidNumber

/-- A zero alone, or digits that start with another one. -/
def noLeadingZero (ds : List Nat) (rest : List UInt8) : Except Malformed (List Nat × List UInt8) :=
  match ds with
  | 0 :: _ :: _ => .error .invalidNumber
  | _ => .ok (ds, rest)

/-- The whole part. -/
def wholePart (atEnd : Malformed) (s : List UInt8) : Except Malformed (List Nat × List UInt8) := do
  let (ds, rest) ← someDigits atEnd s
  noLeadingZero ds rest

/-- The digits after a point, if there is one. -/
def fractionPart (atEnd : Malformed) (s : List UInt8) : Except Malformed (Option (List Nat) × List UInt8) :=
  match s with
  | b :: r =>
    if b = 0x2E then do
      let (ds, rest) ← someDigits atEnd r
      .ok (some ds, rest)
    else .ok (none, s)
  | [] => .ok (none, [])

/-- The sign and digits after the mark of an exponent, if there is one. -/
def exponentPart (atEnd : Malformed) (s : List UInt8) :
    Except Malformed (Option (Bool × List Nat) × List UInt8) :=
  match s with
  | b :: r =>
    if b = 0x65 ∨ b = 0x45 then do
      let signed := r.head?.any fun b => b == 0x2B || b == 0x2D
      let (ds, rest) ← someDigits atEnd (if signed then r.drop 1 else r)
      .ok (some (r.head? == some 0x2D, ds), rest)
    else .ok (none, s)
  | [] => .ok (none, [])

/-- A numeral; `atEnd` is the fault where the bytes end before a digit that must be there. -/
def scan (atEnd : Malformed) (s : List UInt8) : Except Malformed (Numeral × List UInt8) := do
  let negative := s.head? == some 0x2D
  let (whole, s) ← wholePart atEnd (if negative then s.drop 1 else s)
  let (fraction, s) ← fractionPart atEnd s
  let (exponent, s) ← exponentPart atEnd s
  .ok (⟨negative, whole, fraction, exponent⟩, s)

/-! ## 2. The value -/

/-- Appends digits to a significand while it stays below `2 ^ 64`; also the digits that do not fit any more. -/
def gather (significand : Nat) : List Nat → Nat × List Nat
  | [] => (significand, [])
  | d :: ds =>
    if 10 * significand + d < 0x10000000000000000 then gather (10 * significand + d) ds else (significand, d :: ds)

/-- The number that digits in base ten write. -/
def ofDigits (ds : List Nat) : Nat := ds.foldl (fun n d => 10 * n + d) 0

/-- The binary64 number `± significand · 10 ^ exponent`. -/
def float (negative : Bool) (significand : Nat) (exponent : Int) : Except Malformed Number :=
  match Binary64.ofDecimal significand exponent with
  | some x => .ok (.float (if negative then x.neg else x))
  | none => .error .numberOutOfRange

/-- The value of a numeral. Exponents from `2 ^ 31` on are not computed with: the number is zero, or out of range. -/
def number (n : Numeral) : Except Malformed Number :=
  let (whole, dropped) := gather 0 n.whole
  match n.fraction, n.exponent, dropped with
  | none, none, [] =>
    if !n.negative then .ok (.integer whole)
    else if 0 < whole ∧ whole ≤ 0x8000000000000000 then .ok (.integer (-whole))
    else float true whole 0
  | _, _, _ =>
    let fraction := n.fraction.getD []
    let (significand, rest) := gather whole fraction
    let power : Int := dropped.length - (fraction.length - rest.length : Nat)
    match n.exponent with
    | none => float n.negative significand power
    | some (negative, ds) =>
      let e := ofDigits ds
      if e < 0x80000000 then float n.negative significand (if negative then power - e else power + e)
      else if negative || significand == 0 then float n.negative 0 0
      else .error .numberOutOfRange

/-! ## 3. Readers -/

/-- Takes a numeral and gives its value. -/
def read : Reader Number := fun s =>
  match scan .endInValue s with
  | .error cause => .error (.malformed cause)
  | .ok (n, s) =>
    match n.number with
    | .error cause => .error (.malformed cause)
    | .ok v => .ok (v, s)

/-- Takes a numeral without a look at its value. -/
def pass : Reader Unit := fun s =>
  match scan .invalidNumber s with
  | .error cause => .error (.malformed cause)
  | .ok (_, s) => .ok ((), s)

end Numeral

end ReadyPin
