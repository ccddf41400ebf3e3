import ReadyPin.Binary64.Basic

/-!
# The shortest decimals of a binary64 number

Every decimal between the midpoints to the two neighbours of a number is read back as that number. Of those
decimals `Binary64.shortest` takes one with the fewest digits, and of these the nearest.

The search goes over the decimal grids with 1, 2, … 17 digits. On each only the two neighbours of the number have to
be looked at: if any point of the grid lies between the midpoints, so does one of these two.

In the program: how an `f64` is written in a message.
-/

namespace ReadyPin.Binary64

/-! ## 1. The midpoints -/

/-- A positive number and the midpoints to its neighbours, in quarters of its last place: they stand for
`low`, `4 · significand` and `high` times `2 ^ (exponent - 2)`. Below a power of two the neighbour is half as far. -/
structure Interval where
  low : Nat
  value : Nat
  high : Nat
  /-- The midpoints themselves are read as this number exactly if its significand is even. -/
  closed : Bool
  exponent : Int
  deriving Repr

/-- The interval of a number. -/
def interval (x : Binary64) : Interval :=
  let m := 4 * x.significand
  let near := x.significand = 1 <<< (precision - 1) ∧ leastExponent < x.exponent
  { low := if near then m - 1 else m - 2
    value := m
    high := m + 2
    closed := x.significand % 2 = 0
    exponent := x.exponent - 2 }

/-! ## 2. One grid -/

/-- The factors that put quarters of the last place and multiples of `10 ^ k` on one scale of integers. -/
def Interval.factors (i : Interval) (k : Int) : Nat × Nat :=
  (Nat.pow 10 (-k).toNat <<< i.exponent.toNat, Nat.pow 10 k.toNat <<< (-i.exponent).toNat)

/-- The nearer of the two multiples of `10 ^ k` beside the number, if it is read back as the number. -/
def Interval.onGrid (i : Interval) (k : Int) : Option Nat :=
  let (a, b) := i.factors k
  let below := i.value * a / b
  let reads (c : Nat) : Bool :=
    if i.closed then i.low * a ≤ c * b && c * b ≤ i.high * a else i.low * a < c * b && c * b < i.high * a
  let down := reads below
  let up := reads (below + 1)
  if down && up then
    let distDown := i.value * a - below * b
    let distUp := (below + 1) * b - i.value * a
    if distDown < distUp || (distDown == distUp && below % 2 == 0) then some below else some (below + 1)
  else if down then some below
  else if up then some (below + 1)
  else none

/-! ## 3. The search -/

/-- The exponent of ten of the first digit of `num / den`, a positive quotient. -/
def leadingPower (num den : Nat) : Int :=
  if den ≤ num then ((Nat.toDigits 10 (num / den)).length : Int) - 1
  else
    let n : Int := (Nat.toDigits 10 (den / num)).length
    if den ≤ num * Nat.pow 10 (n.toNat - 1) then 1 - n else -n

/-- The first grid with a hit, from `count` digits on; the hit and the grid's exponent of ten. A hit of ten is the
next power of ten, met by a number just below it, and is one digit of the grid before. -/
def search (i : Interval) (lead : Int) : Nat → Nat → Nat × Int
  | 0, _ => (0, 0)
  | fuel + 1, count =>
    let k := lead - count + 1
    match i.onGrid k with
    | some digits => if digits = 10 then (1, k + 1) else (digits, k)
    | none => search i lead fuel (count + 1)

/-- The shortest decimal `digits · 10 ^ power` that is read back as the magnitude of the number. -/
def shortest (x : Binary64) : Nat × Int :=
  if x.significand = 0 then (0, 0)
  else
    let (num, den) := x.ratio
    search x.interval (leadingPower num den) 18 1

/-! ## 4. Text -/

/-- How a number is laid out as text. -/
structure Layout where
  /-- Numbers whose first digit stands at a power of ten in this range are written out, the others with an exponent. -/
  writtenOut : Int → Bool
  /-- What follows a whole number that is written out. -/
  wholeMark : String
  /-- What stands before an exponent that is not negative. -/
  exponentSign : String

/-- Whole numbers end in `.0`; between `1e-5` and `1e16` numbers are written out, and exponents carry their sign. -/
def withExponent : Layout where
  writtenOut p := decide (-5 ≤ p ∧ p ≤ 15)
  wholeMark := ".0"
  exponentSign := "+"

/-- Numbers are written out always, whole ones without a mark. -/
def plain : Layout where
  writtenOut _ := true
  wholeMark := ""
  exponentSign := ""

/-- The decimal text of `digits · 10 ^ power`. -/
def Layout.magnitude (layout : Layout) (digits : Nat) (power : Int) : String :=
  let ds := Nat.toDigits 10 digits
  let lead : Int := power + ds.length - 1
  if layout.writtenOut lead then
    if 0 ≤ power then String.ofList (ds ++ List.replicate power.toNat '0') ++ layout.wholeMark
    else if 0 ≤ lead then
      String.ofList (ds.take (lead.toNat + 1)) ++ "." ++ String.ofList (ds.drop (lead.toNat + 1))
    else "0." ++ String.ofList (List.replicate ((-lead).toNat - 1) '0' ++ ds)
  else
    let fraction := if ds.length = 1 then "" else "." ++ String.ofList (ds.drop 1)
    let sign := if 0 ≤ lead then layout.exponentSign else "-"
    String.ofList (ds.take 1) ++ fraction ++ "e" ++ sign ++ toString lead.natAbs

/-- The shortest text of a number. -/
def Layout.text (layout : Layout) (x : Binary64) : String :=
  let (digits, power) := x.shortest
  (if x.negative then "-" else "") ++ layout.magnitude digits power

end ReadyPin.Binary64
