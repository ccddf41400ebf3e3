import ReadyPin.Json.Source

/-!
# Strict records

A strict record is an object with known members, each at most once. A second member under a key fails before its value
is looked at, and members that are required but missing fail at the closing brace, in the order of the record. Unknown
members are passed over.

A strict record may also be written as a list of its members' values in the order of the record, of which the
optional ones at the end may be left out.

`Reader.choice` reads one of several names, as a string or as the key of an object around null.

In the program: a derived `Deserialize`, as the types of `kube` have it.
-/

namespace ReadyPin

/-- A member of a strict record. -/
structure Slot (σ : Type) where
  key : String
  /-- Reads the value and puts it into what has been read so far. -/
  take : σ → Reader σ
  /-- Whether an object must have the member. -/
  required : Bool := false
  /-- Whether a list must have a value in this place. -/
  listed : Bool := false

namespace Slot

/-- A member that an object and a list must have. -/
def needed {σ α : Type} (key : String) (read : Reader α) (put : σ → α → σ) : Slot σ where
  key := key
  take before := do
    let v ← read
    pure (put before v)
  required := true
  listed := true

/-- A member that may be null, which only an object may leave out. -/
def nullable {σ α : Type} (key : String) (read : Reader α) (put : σ → Option α → σ) : Slot σ where
  key := key
  take before := do
    let v ← Reader.nullable read
    pure (put before v)
  listed := true

/-- A member that an object and a list may leave out. -/
def extra {σ α : Type} (key : String) (read : Reader α) (put : σ → α → σ) : Slot σ where
  key := key
  take before := do
    let v ← read
    pure (put before v)

end Slot

namespace Reader

variable {σ : Type}

/-- The next member of a strict record in an object; `seen` has the keys before it. -/
def slot (slots : List (Slot σ)) (state : σ × List String) (key : String) : Reader (σ × List String) := do
  let (before, seen) := state
  match slots.find? (·.key == key) with
  | some s =>
    if seen.contains key then mismatched (.duplicate key)
    else do
      colon
      let after ← s.take before
      pure (after, key :: seen)
  | none => do
    colon
    pass
    pure (before, seen)

/-- A strict record in an object. -/
def strictObject (start : σ) (slots : List (Slot σ)) : Reader σ := do
  let (result, seen) ← members (start, []) (slot slots)
  match slots.find? fun s => s.required && !seen.contains s.key with
  | some s => mismatched (.missing s.key)
  | none => pure result

/-- The end of a list that must not have further items. -/
def endOfList : Reader Unit := do
  match ← next with
  | none => malformed .endInList
  | some b =>
    if b = 0x5D then drop
    else if b = 0x2C then do
      drop
      let after ← next
      malformed (if after = some 0x5D then .trailingComma else .trailingCharacters)
    else malformed .trailingCharacters

/-- The values of a strict record in a list, from the slot number `index` on. -/
def slots (expected : String) : Nat → σ → List (Slot σ) → Reader σ
  | _, read, [] => do endOfList; pure read
  | index, read, s :: rest => do
    match ← item? (s.take read) (index == 0) with
    | some read => slots expected (index + 1) read rest
    | none =>
      match (s :: rest).findIdx? (·.listed) with
      | some i => mismatched (.length (index + i) expected)
      | none => pure read

/-- A strict record; `size` is the number of its elements by which messages know it. -/
def strictRecord (name : String) (size : Nat) (start : σ) (fields : List (Slot σ)) : Reader σ := do
  match ← kind with
  | .object => strictObject start fields
  | .list => do drop; slots s!"struct {name} with {size} elements" 0 start fields
  | k => unexpected k s!"struct {name}"

/-- Null. -/
def unit : Reader Unit := do
  match ← kind with
  | .null => nullWord
  | k => unexpected k "unit"

/-- One of several names, with what it means. -/
def nameOf {α : Type} (names : List (String × α)) (name : String) : Reader α :=
  match names.lookup name with
  | some v => pure v
  | none => mismatched (.unknownName name (names.map (·.1)))

/-- A choice between names: one of them as a string, or an object with it as the only key and null as its value. -/
def choice {α : Type} (names : List (String × α)) : Reader α := do
  match ← next with
  | none => malformed .endInValue
  | some b =>
    if b = 0x22 then do nameOf names (← text)
    else if b = 0x7B then do
      drop
      let v ← nameOf names (← textAs "variant identifier")
      colon
      unit
      match ← next with
      | none => malformed .endInObject
      | some b => if b = 0x7D then do drop; pure v else malformed .expectedValue
    else malformed .expectedValue

end Reader

end ReadyPin
