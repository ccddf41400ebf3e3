import ReadyPin.Binary64.Basic
import ReadyPin.Text.ByteOrder

/-!
# JSON values

A value as it was read: an object keeps its members in document order, with every duplicate. Where a key is looked
up the last member under it counts, and `Json.settled` is the object's content after that rule, sorted by key.

A numeral without fraction and exponent is an integer as long as it fits into 64 bits, signed or unsigned; every
other number is a binary64 number, and the two are never mixed up.

In the program: `Value` and `Number` of `serde_json`.
-/

namespace ReadyPin

/-- A number of a JSON text. -/
inductive Number where
  | integer (value : Int)
  | float (value : Binary64)
  deriving Repr, DecidableEq

/-- A JSON value. -/
inductive Json where
  | null
  | bool (value : Bool)
  | number (value : Number)
  | string (value : String)
  | array (items : List Json)
  | object (members : List (String × Json))
  deriving Repr, Inhabited

namespace Json

/-- Members in the order of their keys, of those under one key only the last. -/
def settled {α : Type} (members : List (String × α)) : List (String × α) :=
  (OrderedMap.ofEntries members).entries

/-- The value that counts under a key. -/
def lookup {α : Type} (members : List (String × α)) (key : String) : Option α :=
  members.reverse.lookup key

/-- The value under a key of an object; nothing for other values. -/
def member? (key : String) : Json → Option Json
  | .object members => lookup members key
  | _ => none

end Json

end ReadyPin
