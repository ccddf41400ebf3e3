/-!
# Timestamps

`Timestamp.check` says whether a text is a date and a time with an offset, such as `2024-02-29T12:00:00.5+01:00`, and if
not, what is wrong with it. Every RFC 3339 timestamp is one, and more texts are: there may be blanks between the parts,
fields with fewer digits than they should have, years of any length after a sign, an offset without its colon, and `UTC`
for an offset.

The text is checked from the left. Whether there is such a day, such an offset and such a moment is checked at the end
(`Moment.check`).

In the program: `Time` of `k8s_openapi`, which is read by `from_str` of a `DateTime`.
-/

namespace ReadyPin.Timestamp

/-! ## 1. What can be wrong -/

/-- Why a text is not a timestamp. -/
inductive Fault where
  /-- It ends too early. -/
  | tooShort
  /-- A character has no place where it stands. -/
  | badCharacter
  /-- A field has a value that it cannot have. -/
  | outOfRange
  /-- There is more text after the offset. -/
  | tooLong
  /-- In the time of the offset zero, it would be before the first or after the last day there is. -/
  | impossible
  deriving Repr, DecidableEq

/-- The message of a fault. -/
def Fault.message : Fault → String
  | .tooShort => "premature end of input"
  | .badCharacter => "input contains invalid characters"
  | .outOfRange => "input is out of range"
  | .tooLong => "trailing input"
  | .impossible => "no possible date and time matching input"

/-! ## 2. The parts of a timestamp -/

/-- Whether a character is white space, of whatever script. -/
def isBlank (c : Char) : Bool :=
  let n := c.toNat
  (0x09 ≤ n && n ≤ 0x0D) || n == 0x20 || n == 0x85 || n == 0xA0 || n == 0x1680 || (0x2000 ≤ n && n ≤ 0x200A)
    || n == 0x2028 || n == 0x2029 || n == 0x202F || n == 0x205F || n == 0x3000

/-- The text without blanks before it. -/
def trimmed (s : List Char) : List Char := s.dropWhile isBlank

/-- The largest number that a field can be read as. -/
def maxNumber : Nat := 0x7fffffffffffffff

/-- Reads at least one digit and at most `most`. -/
def number (most : Nat) (s : List Char) : Except Fault (Nat × List Char) :=
  let digits := (s.take most).takeWhile Char.isDigit
  if s.isEmpty then .error .tooShort
  else if digits.isEmpty then .error .badCharacter
  else
    let v := digits.foldl (fun v c => 10 * v + (c.toNat - '0'.toNat)) 0
    if v ≤ maxNumber then .ok (v, s.drop digits.length) else .error .outOfRange

/-- Reads a field of at most two digits whose value lies between `least` and `greatest`. -/
def field (least greatest : Nat) (s : List Char) : Except Fault (Nat × List Char) := do
  let (v, rest) ← number 2 (trimmed s)
  if least ≤ v ∧ v ≤ greatest then .ok (v, rest) else .error .outOfRange

/-- Reads a year: up to four digits, or any number of them after a sign. -/
def year (s : List Char) : Except Fault (Int × List Char) := do
  let (v, rest) ← match trimmed s with
    | '-' :: s => (number s.length s).map fun (v, rest) => (-(v : Int), rest)
    | '+' :: s => (number s.length s).map fun (v, rest) => ((v : Int), rest)
    | s => (number 4 s).map fun (v, rest) => ((v : Int), rest)
  if -0x80000000 ≤ v ∧ v ≤ 0x7fffffff then .ok (v, rest) else .error .outOfRange

/-- Reads one of the given characters. -/
def one (allowed : List Char) : List Char → Except Fault (List Char)
  | [] => .error .tooShort
  | c :: rest => if allowed.contains c then .ok rest else .error .badCharacter

/-- Reads the fraction of a second, if there is one: a point and at least one digit. -/
def fraction : List Char → Except Fault (List Char)
  | '.' :: rest => do
    let (_, rest) ← number 9 rest
    .ok (rest.dropWhile Char.isDigit)
  | s => .ok s

/-- Reads two digits. A single character is too short for them if it is one of ASCII, and wrong otherwise. -/
def pair : List Char → Except Fault (Nat × List Char)
  | [] => .error .tooShort
  | [c] => .error (if c.toNat < 0x80 then .tooShort else .badCharacter)
  | c :: d :: rest =>
    if c.isDigit && d.isDigit then .ok (10 * (c.toNat - '0'.toNat) + (d.toNat - '0'.toNat), rest)
    else .error .badCharacter

/-- Reads the hours and minutes of an offset. Colons and blanks may stand between the two, as many as there are. -/
def hoursAndMinutes (s : List Char) : Except Fault (Nat × List Char) := do
  let (hours, rest) ← pair s
  let (minutes, rest) ← pair (rest.dropWhile fun c => c == ':' || isBlank c)
  if minutes < 60 then .ok (60 * hours + minutes, rest) else .error .outOfRange

/-- Reads the offset in minutes: `UTC` or `Z` in either case, or a sign with hours and minutes. -/
def offset (s : List Char) : Except Fault (Int × List Char) :=
  if (s.take 3).map Char.toLower = ['u', 't', 'c'] then .ok (0, s.drop 3)
  else
    match s with
    | [] => .error .tooShort
    | c :: rest =>
      if c = 'Z' ∨ c = 'z' then .ok (0, rest)
      else if c = '+' then (hoursAndMinutes rest).map fun (v, rest) => ((v : Int), rest)
      else if c = '-' ∨ c = '\u2212' then (hoursAndMinutes rest).map fun (v, rest) => (-(v : Int), rest)
      else .error .badCharacter

/-! ## 3. Moments -/

/-- A day and a minute of it, in the time of an offset. -/
structure Moment where
  year : Int
  month : Nat
  day : Nat
  hour : Nat
  minute : Nat
  /-- The offset in minutes. -/
  offset : Int
  deriving Repr, DecidableEq

/-- The number of days of a month in the Gregorian calendar. -/
def daysInMonth (year : Int) (month : Nat) : Nat :=
  if month = 2 then
    if year % 4 = 0 ∧ (year % 100 ≠ 0 ∨ year % 400 = 0) then 29 else 28
  else if month = 4 ∨ month = 6 ∨ month = 9 ∨ month = 11 then 30
  else 31

/-- The first year and the last one that days can be in. -/
def firstYear : Int := -262143
def lastYear : Int := 262142

namespace Moment

/-- The minutes since the day began where the offset is zero: below zero it is the day before, and from the number of
minutes of a day on it is the day after. -/
def sinceMidnight (self : Moment) : Int := 60 * self.hour + self.minute - self.offset

/-- Whether there is such a day, such an offset, and that day where the offset is zero. -/
def check (self : Moment) : Except Fault Unit :=
  if self.year < firstYear ∨ lastYear < self.year ∨ daysInMonth self.year self.month < self.day then .error .outOfRange
  else if 24 * 60 ≤ self.offset.natAbs then .error .outOfRange
  else if self.year = firstYear ∧ self.month = 1 ∧ self.day = 1 ∧ self.sinceMidnight < 0 then .error .impossible
  else if self.year = lastYear ∧ self.month = 12 ∧ self.day = 31 ∧ 24 * 60 ≤ self.sinceMidnight then .error .impossible
  else .ok ()

end Moment

/-! ## 4. The check -/

/-- Succeeds exactly on timestamps. -/
def check (text : String) : Except Fault Unit := do
  let (year, s) ← year text.toList
  let s ← one ['-'] (trimmed s)
  let (month, s) ← field 1 12 s
  let s ← one ['-'] (trimmed s)
  let (day, s) ← field 1 31 s
  let s ← one ['T', 't', ' '] s
  let (hour, s) ← field 0 23 s
  let s ← one [':'] (trimmed s)
  let (minute, s) ← field 0 59 s
  let s ← one [':'] (trimmed s)
  -- The sixtieth second is a leap second; no minute is refused one.
  let (_, s) ← field 0 60 s
  let s ← fraction s
  let (offset, s) ← offset (trimmed s)
  if !(trimmed s).isEmpty then .error .tooLong
  else Moment.check { year, month, day, hour, minute, offset }

example : check "2024-02-29T12:00:00.5+01:00" = .ok () ∧ check " +2024-2 -29 12:0 : 0 +01 : 00 " = .ok ()
    ∧ check "2024-02-29t12:00:60utc" = .ok () ∧ check "2023-02-29T12:00:00Z" = .error .outOfRange :=
  ⟨rfl, rfl, rfl, rfl⟩

end ReadyPin.Timestamp
