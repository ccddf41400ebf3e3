import ReadyPin.Json.Numeral

/-!
# Reading values

The first byte of a value tells its kind. A value can be *kept*, which parses it in full, or *passed over*, which only
scans to its end: then neither the nesting nor the range of numbers nor the characters of strings are checked.

`Json.parse` reads a whole text as one kept value.

In the program: the `Deserialize` of a `Value`, and that of a value that is ignored.
-/

namespace ReadyPin

/-! ## 1. Kinds -/

/-- The kinds of values that a first byte tells apart. -/
inductive Kind where
  | null
  | yes
  | no
  | numeral
  | text
  | list
  | object
  deriving Repr, DecidableEq

namespace Kind

/-- The kind of the values that begin with a byte. -/
def ofByte (b : UInt8) : Option Kind :=
  if b = 0x6E then some .null
  else if b = 0x74 then some .yes
  else if b = 0x66 then some .no
  else if b = 0x2D ∨ Reader.isDigit b then some .numeral
  else if b = 0x22 then some .text
  else if b = 0x5B then some .list
  else if b = 0x7B then some .object
  else none

end Kind

namespace Reader

/-- The kind of the next value, which is not taken. -/
def kind : Reader Kind := do
  match ← next with
  | none => malformed .endInValue
  | some b =>
    match Kind.ofByte b with
    | some k => pure k
    | none => malformed .expectedValue

/-- Takes a value of the given kind to say what was found: of a list or an object only that it is one. -/
def found : Kind → Reader Found
  | .null => do nullWord; pure .null
  | .yes => do trueWord; pure (.bool true)
  | .no => do falseWord; pure (.bool false)
  | .numeral => .number <$> Numeral.read
  | .text => .string <$> text
  | .list => pure .list
  | .object => pure .object

/-- Fails with a value of a kind that is not the expected one. -/
def unexpected {α : Type} (kind : Kind) (expected : String) : Reader α := do
  mismatched (.kind (← found kind) expected)

/-! ## 2. Kept values -/

/-- A kept value. `list` and `object` read what begins with a bracket or a brace. -/
def keptBy (list object : Reader Json) : Reader Json := do
  match ← kind with
  | .null => do nullWord; pure .null
  | .yes => do trueWord; pure (.bool true)
  | .no => do falseWord; pure (.bool false)
  | .numeral => .number <$> Numeral.read
  | .text => .string <$> text
  | .list => list
  | .object => object

/-- One more member of an object whose members so far are in reverse. -/
def keptMember (value : Reader Json) (before : List (String × Json)) (key : String) :
    Reader (List (String × Json)) := do
  colon
  let v ← value
  pure ((key, v) :: before)

/-- A kept value in which at most `depth` brackets may be open at once. -/
def kept : Nat → Reader Json
  | 0 => keptBy (malformed .nestedTooDeep) (malformed .nestedTooDeep)
  | depth + 1 => keptBy (.array <$> items (kept depth))
      ((fun ms => .object ms.reverse) <$> members [] (keptMember (kept depth)))

/-- The number of brackets that may be open at once in a text. -/
def maxDepth : Nat := 127

/-! ## 3. Values passed over -/

/-- An open bracket. -/
inductive Bracket where
  | square
  | curly
  deriving Repr, DecidableEq

/-- The byte that closes a bracket. -/
def Bracket.closing : Bracket → UInt8
  | .square => 0x5D
  | .curly => 0x7D

/-- The fault of bytes that end inside a bracket. -/
def Bracket.atEnd : Bracket → Malformed
  | .square => .endInList
  | .curly => .endInObject

/-- The rest of a string that is passed over, after its opening quote. Escapes need a known letter, and four
hexadecimal digits after a `u`. -/
def passText : List UInt8 → Except Fault (List UInt8)
  | [] => .error (.malformed .endInString)
  | b :: s =>
    if b = 0x22 then .ok s
    else if b < 0x20 then .error (.malformed .controlCharacter)
    else if b ≠ 0x5C then passText s
    else match s with
      | [] => .error (.malformed .endInString)
      | e :: s =>
        if (escaped e).isSome then passText s
        else if e ≠ 0x75 then .error (.malformed .invalidEscape)
        else match s with
          | h₁ :: h₂ :: h₃ :: h₄ :: s =>
            if (hexFour h₁ h₂ h₃ h₄).isSome then passText s else .error (.malformed .invalidEscape)
          | _ => .error (.malformed .endInString)

/-- Passes over a string, its opening quote included. -/
def passString : Reader Unit := fun s =>
  match passText (s.drop 1) with
  | .error fault => .error fault
  | .ok s => .ok ((), s)

/-- Passes over the key and the colon before a value, inside a brace. -/
def passKey (bracket : Bracket) : Reader Unit :=
  match bracket with
  | .square => pure ()
  | .curly => do
    match ← next with
    | none => malformed .endInObject
    | some b =>
      if b = 0x22 then do passString; colon else malformed .keyNotString

/-- What comes next while a value is passed over. -/
inductive Passing where
  /-- A value. -/
  | value
  /-- A comma, or the end of the innermost bracket. -/
  | comma
  deriving Repr, DecidableEq

/-- The step after a value inside the given open brackets, innermost first. -/
def passed (brackets : List Bracket) : (Passing × List Bracket) ⊕ Unit :=
  if brackets.isEmpty then .inr () else .inl (.comma, brackets)

/-- Passes over an opening bracket. An empty pair is a whole value; else the first value inside comes next. -/
def passOpening (bracket : Bracket) (outer : List Bracket) : Reader ((Passing × List Bracket) ⊕ Unit) := do
  drop
  match ← next with
  | none => malformed bracket.atEnd
  | some b =>
    if b = bracket.closing then do drop; pure (passed outer)
    else do
      passKey bracket
      pure (.inl (.value, bracket :: outer))

/-- Passes over a scalar, a bracket or a comma. -/
def passStep : Passing × List Bracket → Reader ((Passing × List Bracket) ⊕ Unit)
  | (.value, brackets) => do
    match ← kind with
    | .null => do nullWord; pure (passed brackets)
    | .yes => do trueWord; pure (passed brackets)
    | .no => do falseWord; pure (passed brackets)
    | .numeral => do Numeral.pass; pure (passed brackets)
    | .text => do passString; pure (passed brackets)
    | .list => passOpening .square brackets
    | .object => passOpening .curly brackets
  | (.comma, []) => pure (.inr ())
  | (.comma, bracket :: outer) => do
    match ← next with
    | none => malformed bracket.atEnd
    | some b =>
      if b = 0x2C then do
        drop
        passKey bracket
        pure (.inl (.value, bracket :: outer))
      else if b = bracket.closing then do drop; pure (passed outer)
      else malformed (if bracket = .square then .expectedCommaOrBracket else .expectedCommaOrBrace)

/-- Passes over one value. -/
def pass : Reader Unit := iterate passStep (.value, [])

end Reader

/-- The value that a whole text writes. -/
def Json.parse (bytes : List UInt8) : Except Fault Json := Reader.all (Reader.kept Reader.maxDepth) bytes

end ReadyPin
