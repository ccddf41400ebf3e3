import ReadyPin.Json.Value

/-!
# Typed values

Typed values are read from two sources. One is the bytes of a text: members come in document order, and a fault of the
text ends the reading where it stands. The other is a kept value: its members come in the order of their keys, of
those under one key only the last, and only mismatches can occur.

A decoder over `Source m` is written once and reads from both. `Source.record` is the shape of most decoders: an object
with known members, each of which may be missing, in which other members are passed over.

In the program: `from_slice` and `from_value` of `serde_json`, with the `Deserialize` of the types of `k8s_openapi`.
-/

namespace ReadyPin

/-- Where typed values are read from. Every operation takes one value; `expected` is how a mismatch words what was
expected. -/
class Source (m : Type → Type) extends Monad m where
  /-- Fails with a mismatch. -/
  reject {α : Type} (cause : Mismatch) : m α
  /-- A string. -/
  textAs (expected : String) : m String
  /-- A truth value. -/
  flag : m Bool
  /-- An integer within bounds. -/
  integer (expected : String) (least greatest : Int) : m Int
  /-- A string, or an integer of 32 bits. -/
  intOrText : m Unit
  /-- A value that is passed over. -/
  pass : m Unit
  /-- A value of any kind that is kept; `outside` is the number of brackets that are open around it. -/
  kept (outside : Nat) : m Unit
  /-- A value, or null. -/
  nullable {α : Type} (read : m α) : m (Option α)
  /-- A list. -/
  list {α : Type} (read : m α) : m (List α)
  /-- An object. The value of each member is taken by `step`. -/
  object {σ : Type} (expected : String) (start : σ) (step : σ → String → m σ) : m σ

/-! ## 1. Reading from bytes -/

namespace Reader

/-- A string. -/
def textAs (expected : String) : Reader String := do
  match ← kind with
  | .text => text
  | k => unexpected k expected

/-- A truth value. -/
def flag : Reader Bool := do
  match ← kind with
  | .yes => do trueWord; pure true
  | .no => do falseWord; pure false
  | k => unexpected k "a boolean"

/-- An integer within bounds. -/
def integer (expected : String) (least greatest : Int) : Reader Int := do
  match ← kind with
  | .numeral => do
    match ← Numeral.read with
    | .integer i =>
      if least ≤ i ∧ i ≤ greatest then pure i else mismatched (.value (.number (.integer i)) expected)
    | x => mismatched (.kind (.number x) expected)
  | k => unexpected k expected

/-- A string, or an integer of 32 bits. -/
def intOrText : Reader Unit := do
  match ← kind with
  | .text => do let _ ← text; pure ()
  | .numeral => do
    match ← Numeral.read with
    | .integer i =>
      if -0x80000000 ≤ i ∧ i ≤ 0x7fffffff then pure ()
      else mismatched (.value (.number (.integer i)) "a 32-bit integer")
    | x => mismatched (.kind (.number x) "enum IntOrString")
  | k => unexpected k "enum IntOrString"

/-- A value, or null. Where there is no value at all, it is `read` that says so. -/
def nullable {α : Type} (read : Reader α) : Reader (Option α) := do
  match ← next with
  | some b => if b = 0x6E then do nullWord; pure none else some <$> read
  | none => some <$> read

/-- A list. -/
def list {α : Type} (read : Reader α) : Reader (List α) := do
  match ← kind with
  | .list => items read
  | k => unexpected k "a sequence"

/-- An object. -/
def object {σ : Type} (expected : String) (start : σ) (step : σ → String → Reader σ) : Reader σ := do
  match ← kind with
  | .object => members start fun read key => do colon; step read key
  | k => unexpected k expected

instance : Source Reader where
  reject := mismatched
  textAs := textAs
  flag := flag
  integer := integer
  intOrText := intOrText
  pass := pass
  kept outside := do let _ ← kept (maxDepth - outside); pure ()
  nullable := nullable
  list := list
  object := object

end Reader

/-! ## 2. Reading from a kept value -/

/-- Takes something from a kept value. -/
abbrev Held := ReaderT Json (Except Mismatch)

namespace Held

/-- Fails with a value that is not of the expected kind. -/
def unexpected {α : Type} (value : Json) (expected : String) : Except Mismatch α :=
  .error (.kind (Found.ofJson value) expected)

instance : Source Held where
  reject cause _ := .error cause
  textAs expected
    | .string s => .ok s
    | v => unexpected v expected
  flag
    | .bool b => .ok b
    | v => unexpected v "a boolean"
  integer expected least greatest
    | .number (.integer i) =>
      if least ≤ i ∧ i ≤ greatest then .ok i else .error (.value (.number (.integer i)) expected)
    | v => unexpected v expected
  intOrText
    | .string _ => .ok ()
    | .number (.integer i) =>
      if -0x80000000 ≤ i ∧ i ≤ 0x7fffffff then .ok () else .error (.value (.number (.integer i)) "a 32-bit integer")
    | v => unexpected v "enum IntOrString"
  pass _ := .ok ()
  kept _ _ := .ok ()
  nullable read
    | .null => .ok none
    | v => (read v).map some
  list read
    | .array items => items.mapM read
    | v => unexpected v "a sequence"
  object expected start step
    | .object members => (Json.settled members).foldlM (fun read m => step read m.1 m.2) start
    | v => unexpected v expected

end Held

/-! ## 3. Common values -/

namespace Source

variable {m : Type → Type} [Source m]

/-- A string. -/
def text : m String := textAs "a string"

/-- A signed integer of 32 bits. -/
def int32 : m Int := integer "i32" (-0x80000000) 0x7fffffff

/-- A signed integer of 64 bits. -/
def int64 : m Int := integer "i64" (-0x8000000000000000) 0x7fffffffffffffff

/-- An unsigned integer of 16 bits. -/
def word16 : m Int := integer "u16" 0 0xffff

/-- A timestamp. -/
def timestamp : m Unit := do
  match Timestamp.check (← textAs "an RFC 3339 formatted date and time string") with
  | .ok () => pure ()
  | .error fault => reject (.timestamp fault)

/-- An object with a value under every key, in the order of reading. -/
def mapOf {α : Type} (read : m α) : m (List (String × α)) := do
  let entries ← object "a map" [] fun before key => do
    let v ← read
    pure ((key, v) :: before)
  pure entries.reverse

/-- An object with strings under all keys. -/
def textMap : m (List (String × String)) := mapOf text

end Source

/-! ## 4. Records -/

/-- A known member of an object: how its value is put into what has been read so far. -/
structure Field (m : Type → Type) (σ : Type) where
  key : String
  take : σ → m σ

namespace Field

variable {m : Type → Type} [Source m] {σ α : Type}

/-- A member that may be null, which is as if it were missing. -/
def optional (key : String) (read : m α) (put : σ → Option α → σ) : Field m σ where
  key := key
  take before := do
    let v ← Source.nullable read
    pure (put before v)

/-- A member of which only the type matters. -/
def typed (key : String) (read : m α) : Field m σ := optional key read fun before _ => before

/-- Members of one type. -/
def each (read : m α) (keys : List String) : List (Field m σ) := keys.map fun key => typed key read

/-- A member that must be the given string. -/
def constant (key value : String) : Field m σ where
  key := key
  take before := do
    let t ← Source.text
    if t = value then pure before else Source.reject (.value (.string t) value)

end Field

namespace Source

variable {m : Type → Type} [Source m]

/-- An object with known members. Other members are passed over, and of several with one key the last counts. -/
def record {σ : Type} (expected : String) (start : σ) (fields : List (Field m σ)) : m σ :=
  object expected start fun read key =>
    match fields.find? (·.key == key) with
    | some field => field.take read
    | none => do pass; pure read

/-- An object of which only the types of the known members matter. -/
def shape (expected : String) (fields : List (Field m Unit)) : m Unit := record expected () fields

end Source

end ReadyPin
