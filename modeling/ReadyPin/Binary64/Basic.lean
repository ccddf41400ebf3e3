/-!
# Binary64

Finite binary64 numbers as exact values: a sign, a natural significand and a power of two. Every operation is one
exact operation on integers followed by one rounding, `Binary64.round`, to the nearest number of the format, ties
to the even significand. What lies beyond the largest finite number has no value.

In the program: `f64`, for the numbers of a body and of the metrics.
-/

namespace ReadyPin

/-- The number `± significand · 2 ^ exponent`. Numbers made by `Binary64.round` have a significand below `2 ^ 53`,
and at least `2 ^ 52` unless the exponent is the least one. -/
structure Binary64 where
  negative : Bool
  significand : Nat
  exponent : Int
  deriving Repr, DecidableEq

namespace Binary64

/-! ## 1. The format -/

/-- The number of bits of a significand. -/
def precision : Nat := 53

/-- The least exponent. -/
def leastExponent : Int := -1074

/-- The greatest exponent. -/
def greatestExponent : Int := 971

/-! ## 2. Rounding -/

/-- The quotient to the nearest natural number, a half going to the even one. -/
def divideToEven (num den : Nat) : Nat :=
  let q := num / den
  let r := num % den
  if 2 * r < den then q
  else if den < 2 * r then q + 1
  else if q % 2 = 0 then q else q + 1

/-- The quotient `num / den / 2 ^ e` to the nearest natural number. -/
def scaled (num den : Nat) (e : Int) : Nat :=
  if 0 ≤ e then divideToEven num (den <<< e.toNat) else divideToEven (num <<< (-e).toNat) den

/-- The exponent at which `num / den` fills the significand, but not less than the least one. -/
def exponentOf (num den : Nat) : Int :=
  let low := (num.log2 : Int) - den.log2 - precision
  let full := if 0 ≤ low then den <<< (low.toNat + precision) ≤ num
    else den <<< precision ≤ num <<< (-low).toNat
  max leastExponent (if full then low + 1 else low)

/-- The number of the format that is nearest to `± num / den`, or nothing when that is beyond the largest one. -/
def round (negative : Bool) (num den : Nat) : Option Binary64 :=
  if num = 0 then some ⟨negative, 0, leastExponent⟩
  else
    let e := exponentOf num den
    let s := scaled num den e
    let x : Binary64 := if s = 1 <<< precision then ⟨negative, s / 2, e + 1⟩ else ⟨negative, s, e⟩
    if x.exponent ≤ greatestExponent then some x else none

/-! ## 3. Arithmetic -/

/-- The magnitude as a quotient of natural numbers. -/
def ratio (x : Binary64) : Nat × Nat :=
  if 0 ≤ x.exponent then (x.significand <<< x.exponent.toNat, 1)
  else (x.significand, 1 <<< (-x.exponent).toNat)

/-- The rounded product. -/
def mul (x y : Binary64) : Option Binary64 :=
  let (a, b) := x.ratio
  let (c, d) := y.ratio
  round (x.negative != y.negative) (a * c) (b * d)

/-- The rounded quotient; nothing for a zero divisor. -/
def div (x y : Binary64) : Option Binary64 :=
  let (a, b) := x.ratio
  let (c, d) := y.ratio
  if c = 0 then none else round (x.negative != y.negative) (a * d) (b * c)

/-- The nearest number to a natural number. -/
def ofNat (n : Nat) : Option Binary64 := round false n 1

/-- The nearest number to an integer. -/
def ofInt (i : Int) : Option Binary64 := round (decide (i < 0)) i.natAbs 1

/-- The opposite number. -/
def neg (x : Binary64) : Binary64 := { x with negative := !x.negative }

/-! ## 4. Reading decimals -/

/-- Divides by `10 ^ 308` a number of times and then by `10 ^ last`, rounding each time. Zero stays as it is. -/
def shrink (x : Binary64) (last : Nat) : Nat → Option Binary64
  | 0 => (ofNat (Nat.pow 10 last)).bind x.div
  | times + 1 =>
    if x.significand = 0 then some x
    else (ofNat (Nat.pow 10 308)).bind fun p => (x.div p).bind fun y => shrink y last times

/-- The number that the decimal `digits · 10 ^ exponent` is read as: the digits are rounded, then multiplied or
divided by the rounded power of ten. The result may lie one step beside the nearest number. -/
def ofDecimal (digits : Nat) (exponent : Int) : Option Binary64 :=
  (ofNat digits).bind fun x =>
    if exponent < 0 then
      let n := (-exponent).toNat
      let times := (n - 1) / 308
      x.shrink (n - 308 * times) times
    else if exponent ≤ 308 then (ofNat (Nat.pow 10 exponent.toNat)).bind x.mul
    else if digits = 0 then some x
    else none

end Binary64

end ReadyPin
