import ReadyPin.Json.Fault

/-!
# Reading bytes

A `Reader` takes something from the front of a list of bytes and leaves the rest, or fails; the first fault ends
the whole reading. This module has the readers that every kind of value is made of: blanks, words, the text between
quotes, and the loops over the items of a list and the members of an object.

All loops are instances of `Reader.iterate`, which repeats a step that takes at least one byte. Its bound is the
input itself, so that it never ends a loop early.

In the program: the `Deserializer` of `serde_json` over a slice.
-/

namespace ReadyPin

/-- Takes something from the front of the bytes. -/
abbrev Reader := StateT (List UInt8) (Except Fault)

namespace Reader

/-! ## 1. Bytes -/

/-- Fails with a breach of the grammar. -/
def malformed {α : Type} (cause : Malformed) : Reader α := fun _ => .error (.malformed cause)

/-- Fails with a mismatch. -/
def mismatched {α : Type} (cause : Mismatch) : Reader α := fun _ => .error (.mismatch cause)

/-- Space, tab, carriage return and line feed stand between the tokens. -/
def isBlank (b : UInt8) : Bool := b == 0x20 || b == 0x09 || b == 0x0D || b == 0x0A

/-- Whether a byte is a decimal digit. -/
def isDigit (b : UInt8) : Bool := 0x30 ≤ b && b ≤ 0x39

/-- Skips blanks and shows the next byte without taking it. -/
def next : Reader (Option UInt8) := fun s =>
  let s := s.dropWhile isBlank
  .ok (s.head?, s)

/-- Takes one byte. -/
def drop : Reader Unit := fun s => .ok ((), s.drop 1)

/-- Takes the rest of a word whose first letter has been seen. -/
def word : List UInt8 → Reader Unit
  | [] => pure ()
  | b :: bs => fun s =>
    match s with
    | [] => .error (.malformed .endInValue)
    | c :: s => if c = b then word bs s else .error (.malformed .expectedWord)

/-- Takes the word `null`. -/
def nullWord : Reader Unit := word [0x6E, 0x75, 0x6C, 0x6C]

/-- Takes the word `true`. -/
def trueWord : Reader Unit := word [0x74, 0x72, 0x75, 0x65]

/-- Takes the word `false`. -/
def falseWord : Reader Unit := word [0x66, 0x61, 0x6C, 0x73, 0x65]

/-- Only blanks may be left. -/
def finish : Reader Unit := do
  match ← next with
  | none => pure ()
  | some _ => malformed .trailingCharacters

/-- What a reader takes from all of the bytes. -/
def all {α : Type} (read : Reader α) (bytes : List UInt8) : Except Fault α :=
  match (do let a ← read; finish; pure a : Reader α) bytes with
  | .ok (a, _) => .ok a
  | .error fault => .error fault

/-! ## 2. Loops -/

/-- Repeats a step until it has a result, at most once more than there are bytes in `bound`. -/
def iterateWithin {σ α : Type} (step : σ → Reader (σ ⊕ α)) : List UInt8 → σ → Reader α
  | bound, state => fun s =>
    match step state s with
    | .error fault => .error fault
    | .ok (.inr result, s) => .ok (result, s)
    | .ok (.inl state, s) =>
      match bound with
      | [] => .error (.malformed .endInValue)
      | _ :: bound => iterateWithin step bound state s

/-- Repeats a step that takes at least one byte until it has a result. -/
def iterate {σ α : Type} (step : σ → Reader (σ ⊕ α)) (start : σ) : Reader α := fun s =>
  iterateWithin step s start s

/-! ## 3. Text -/

/-- The value of a hexadecimal digit in either case. -/
def hexDigit (b : UInt8) : Option Nat :=
  if isDigit b then some (b.toNat - 0x30)
  else if 0x61 ≤ b && b ≤ 0x66 then some (b.toNat - 0x61 + 10)
  else if 0x41 ≤ b && b ≤ 0x46 then some (b.toNat - 0x41 + 10)
  else none

/-- The value of four hexadecimal digits. -/
def hexFour (a b c d : UInt8) : Option Nat := do
  return ((← hexDigit a) * 16 + (← hexDigit b)) * 256 + ((← hexDigit c) * 16 + (← hexDigit d))

/-- The byte that a backslash and one letter stand for. -/
def escaped (b : UInt8) : Option UInt8 :=
  if b = 0x22 ∨ b = 0x5C ∨ b = 0x2F then some b
  else if b = 0x62 then some 0x08
  else if b = 0x66 then some 0x0C
  else if b = 0x6E then some 0x0A
  else if b = 0x72 then some 0x0D
  else if b = 0x74 then some 0x09
  else none

/-- Whether a 16-bit unit is the first half of a surrogate pair. -/
def isLeading (n : Nat) : Bool := 0xD800 ≤ n && n ≤ 0xDBFF

/-- Whether a 16-bit unit is the second half of a surrogate pair. -/
def isTrailing (n : Nat) : Bool := 0xDC00 ≤ n && n ≤ 0xDFFF

/-- The character of a surrogate pair. -/
def ofPair (leading trailing : Nat) : Char :=
  .ofNat (0x10000 + (leading - 0xD800) * 0x400 + (trailing - 0xDC00))

/-- The bytes of a string up to its closing quote, with those before in reverse. Escapes are replaced by what they
stand for; whether all of it is UTF-8 is not looked at here. -/
def textBytes (before : List UInt8) : List UInt8 → Except Fault (List UInt8 × List UInt8)
  | [] => .error (.malformed .endInString)
  | b :: s =>
    if b = 0x22 then .ok (before.reverse, s)
    else if b < 0x20 then .error (.malformed .controlCharacter)
    else if b ≠ 0x5C then textBytes (b :: before) s
    else match s with
      | [] => .error (.malformed .endInString)
      | e :: s =>
        match escaped e with
        | some c => textBytes (c :: before) s
        | none =>
          if e ≠ 0x75 then .error (.malformed .invalidEscape)
          else match s with
            | h₁ :: h₂ :: h₃ :: h₄ :: s =>
              match hexFour h₁ h₂ h₃ h₄ with
              | none => .error (.malformed .invalidEscape)
              | some n =>
                if isTrailing n then .error (.malformed .loneSurrogate)
                else if isLeading n then
                  match s with
                  | [] => .error (.malformed .endInString)
                  | p :: s =>
                    if p ≠ 0x5C then .error (.malformed .unfinishedSurrogatePair)
                    else match s with
                      | [] => .error (.malformed .endInString)
                      | u :: s =>
                        if u ≠ 0x75 then .error (.malformed .unfinishedSurrogatePair)
                        else match s with
                          | t₁ :: t₂ :: t₃ :: t₄ :: s =>
                            match hexFour t₁ t₂ t₃ t₄ with
                            | none => .error (.malformed .invalidEscape)
                            | some m =>
                              if isTrailing m then
                                textBytes ((Utf8.encodeChar (ofPair n m)).reverse ++ before) s
                              else .error (.malformed .loneSurrogate)
                          | _ => .error (.malformed .endInString)
                else textBytes ((Utf8.encodeChar (.ofNat n)).reverse ++ before) s
            | _ => .error (.malformed .endInString)

/-- A string, its opening quote included. -/
def text : Reader String := fun s =>
  match textBytes [] (s.drop 1) with
  | .error fault => .error fault
  | .ok (bytes, s) =>
    match Utf8.string bytes with
    | .ok t => .ok (t, s)
    | .error _ => .error (.malformed .invalidCodePoint)

/-! ## 4. Lists and objects -/

/-- The next item of a list, after its opening bracket; nothing after the closing one. The first item has no
comma before it. -/
def item? {α : Type} (read : Reader α) (first : Bool) : Reader (Option α) := do
  match ← next with
  | none => malformed .endInList
  | some b =>
    if b = 0x5D then do drop; pure none
    else if first then some <$> read
    else if b = 0x2C then do
      drop
      match ← next with
      | none => malformed .endInValue
      | some b => if b = 0x5D then malformed .trailingComma else some <$> read
    else malformed .expectedCommaOrBracket

/-- Takes the next item of a list; those before it are in reverse. After the last one the list is complete. -/
def itemStep {α : Type} (read : Reader α) (before : List α) : Reader (List α ⊕ List α) := do
  match ← item? read before.isEmpty with
  | some a => pure (.inl (a :: before))
  | none => pure (.inr before.reverse)

/-- All items of a list, its brackets included. -/
def items {α : Type} (read : Reader α) : Reader (List α) := do
  drop
  iterate (itemStep read) []

/-- The colon between a key and its value. -/
def colon : Reader Unit := do
  match ← next with
  | none => malformed .endInObject
  | some b => if b = 0x3A then drop else malformed .expectedColon

/-- The key of the next member of an object, after its opening brace; nothing after the closing one. The first
member has no comma before it. -/
def key? (first : Bool) : Reader (Option String) := do
  match ← next with
  | none => malformed .endInObject
  | some b =>
    if b = 0x7D then do drop; pure none
    else if first then
      if b = 0x22 then some <$> text else malformed .keyNotString
    else if b = 0x2C then do
      drop
      match ← next with
      | none => malformed .endInValue
      | some b =>
        if b = 0x22 then some <$> text
        else if b = 0x7D then malformed .trailingComma
        else malformed .keyNotString
    else malformed .expectedCommaOrBrace

/-- Takes the next member of an object; the state says whether it is the first one, and what has been read. After the
last one that is the result. -/
def memberStep {σ : Type} (step : σ → String → Reader σ) (state : Bool × σ) : Reader ((Bool × σ) ⊕ σ) := do
  match ← key? state.1 with
  | some key => do
    let read ← step state.2 key
    pure (.inl (false, read))
  | none => pure (.inr state.2)

/-- The members of an object, its braces included. Each key goes to `step`, which reads on from the colon and
takes what has been read so far one member further. -/
def members {σ : Type} (start : σ) (step : σ → String → Reader σ) : Reader σ := do
  drop
  iterate (memberStep step) (true, start)

end Reader

end ReadyPin
