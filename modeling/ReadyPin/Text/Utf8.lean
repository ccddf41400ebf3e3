/-!
# UTF-8

The byte form of text. `Utf8.encode` writes a list of characters, `Utf8.decode` reads one back and, where
the bytes are not UTF-8, says up to which byte they were and how many bytes form the broken sequence.

Both sides are stated in `Nat` arithmetic on lists, so that each branch is a linear condition on a code point.

In the program: `from_utf8`, and the text of its error.
-/

namespace ReadyPin.Utf8

/-! ## 1. Writing -/

/-- The bytes of one character: one to four of them, by the size of its code point. -/
def encodeChar (c : Char) : List UInt8 :=
  let n := c.toNat
  if n < 0x80 then [.ofNat n]
  else if n < 0x800 then [.ofNat (0xC0 + n / 0x40), .ofNat (0x80 + n % 0x40)]
  else if n < 0x10000 then
    [.ofNat (0xE0 + n / 0x1000), .ofNat (0x80 + n / 0x40 % 0x40), .ofNat (0x80 + n % 0x40)]
  else
    [.ofNat (0xF0 + n / 0x40000), .ofNat (0x80 + n / 0x1000 % 0x40), .ofNat (0x80 + n / 0x40 % 0x40),
      .ofNat (0x80 + n % 0x40)]

/-- The bytes of a text, character by character. -/
def encode (cs : List Char) : List UInt8 := cs.flatMap encodeChar

/-- The bytes of a string. -/
def bytes (s : String) : List UInt8 := encode s.toList

@[simp] theorem encode_nil : encode [] = [] := rfl

@[simp] theorem encode_cons (c : Char) (cs : List Char) :
    encode (c :: cs) = encodeChar c ++ encode cs := List.flatMap_cons

@[simp] theorem encode_append (cs ds : List Char) : encode (cs ++ ds) = encode cs ++ encode ds :=
  List.flatMap_append

/-! ## 2. Reading -/

/-- Where bytes stop being UTF-8: `validUpTo` bytes are whole characters, and the `span` bytes after them
cannot begin or continue one. With no span the bytes end in the middle of a character. -/
structure Invalid where
  validUpTo : Nat
  span : Option Nat
  deriving Repr, DecidableEq

/-- The message for bytes that are not UTF-8. -/
def Invalid.message (e : Invalid) : String :=
  match e.span with
  | some n => s!"invalid utf-8 sequence of {n} bytes from index {e.validUpTo}"
  | none => s!"incomplete utf-8 byte sequence from index {e.validUpTo}"

/-- A continuation byte is one of 0x80 to 0xBF. -/
def isContinuation (n : Nat) : Bool := 0x80 ≤ n && n ≤ 0xBF

/-- The second byte of a longer sequence: a continuation byte, narrowed after those first bytes that would
otherwise allow an overlong form, a surrogate or a code point beyond U+10FFFF. -/
def secondFits (first second : Nat) : Bool :=
  if first = 0xE0 then 0xA0 ≤ second && second ≤ 0xBF
  else if first = 0xED then 0x80 ≤ second && second ≤ 0x9F
  else if first = 0xF0 then 0x90 ≤ second && second ≤ 0xBF
  else if first = 0xF4 then 0x80 ≤ second && second ≤ 0x8F
  else isContinuation second

/-- Reads on from byte number `at`, with the characters before it in reverse. -/
def decodeFrom (pos : Nat) (read : List Char) : List UInt8 → Except Invalid (List Char)
  | [] => .ok read.reverse
  | b₀ :: r₀ =>
    let n₀ := b₀.toNat
    if n₀ < 0x80 then decodeFrom (pos + 1) (.ofNat n₀ :: read) r₀
    else if n₀ < 0xC2 then .error ⟨pos, some 1⟩
    else match r₀ with
      | [] => if n₀ < 0xF5 then .error ⟨pos, none⟩ else .error ⟨pos, some 1⟩
      | b₁ :: r₁ =>
        let n₁ := b₁.toNat
        if n₀ < 0xE0 then
          if isContinuation n₁ then
            decodeFrom (pos + 2) (.ofNat ((n₀ - 0xC0) * 0x40 + (n₁ - 0x80)) :: read) r₁
          else .error ⟨pos, some 1⟩
        else if n₀ ≥ 0xF5 || !secondFits n₀ n₁ then .error ⟨pos, some 1⟩
        else match r₁ with
          | [] => .error ⟨pos, none⟩
          | b₂ :: r₂ =>
            let n₂ := b₂.toNat
            if !isContinuation n₂ then .error ⟨pos, some 2⟩
            else if n₀ < 0xF0 then
              decodeFrom (pos + 3)
                (.ofNat ((n₀ - 0xE0) * 0x1000 + (n₁ - 0x80) * 0x40 + (n₂ - 0x80)) :: read) r₂
            else match r₂ with
              | [] => .error ⟨pos, none⟩
              | b₃ :: r₃ =>
                let n₃ := b₃.toNat
                if isContinuation n₃ then
                  decodeFrom (pos + 4)
                    (.ofNat ((n₀ - 0xF0) * 0x40000 + (n₁ - 0x80) * 0x1000 + (n₂ - 0x80) * 0x40
                      + (n₃ - 0x80)) :: read) r₃
                else .error ⟨pos, some 3⟩

/-- The characters that the bytes encode. -/
def decode (bs : List UInt8) : Except Invalid (List Char) := decodeFrom 0 [] bs

/-- The string that the bytes encode. -/
def string (bs : List UInt8) : Except Invalid String := (decode bs).map String.ofList

end ReadyPin.Utf8
