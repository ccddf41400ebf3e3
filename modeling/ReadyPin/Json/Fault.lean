import ReadyPin.Binary64.Shortest
import ReadyPin.Json.Basic
import ReadyPin.Text.Quoted
import ReadyPin.Text.Timestamp

/-!
# What can be wrong with a JSON text

A text is *malformed* where it breaks the grammar of JSON or a limit on it, and a well-formed value can be a *mismatch*
for what is expected in its place. `Fault.message` words both.

`Fault.isEnd` singles out the texts that only end too early: with more bytes they could still become right.

In the program: `Error` of `serde_json`, without the position in the text.
-/

namespace ReadyPin

/-- A breach of the grammar, or of the limits on nesting and on numbers. -/
inductive Malformed where
  | endInValue
  | endInString
  | endInList
  | endInObject
  | expectedWord
  | expectedValue
  | expectedColon
  | expectedCommaOrBracket
  | expectedCommaOrBrace
  | trailingComma
  | trailingCharacters
  | keyNotString
  | invalidNumber
  | numberOutOfRange
  | invalidEscape
  | unfinishedSurrogatePair
  | loneSurrogate
  | controlCharacter
  | invalidCodePoint
  | nestedTooDeep
  deriving Repr, DecidableEq

/-- The wording of a breach. -/
def Malformed.message : Malformed → String
  | .endInValue => "EOF while parsing a value"
  | .endInString => "EOF while parsing a string"
  | .endInList => "EOF while parsing a list"
  | .endInObject => "EOF while parsing an object"
  | .expectedWord => "expected ident"
  | .expectedValue => "expected value"
  | .expectedColon => "expected `:`"
  | .expectedCommaOrBracket => "expected `,` or `]`"
  | .expectedCommaOrBrace => "expected `,` or `\x7d`"
  | .trailingComma => "trailing comma"
  | .trailingCharacters => "trailing characters"
  | .keyNotString => "key must be a string"
  | .invalidNumber => "invalid number"
  | .numberOutOfRange => "number out of range"
  | .invalidEscape => "invalid escape"
  | .unfinishedSurrogatePair => "unexpected end of hex escape"
  | .loneSurrogate => "lone leading surrogate in hex escape"
  | .controlCharacter => "control character (\\u0000-\\u001F) found while parsing a string"
  | .invalidCodePoint => "invalid unicode code point"
  | .nestedTooDeep => "recursion limit exceeded"

/-- What a message says was found in place of the expected. -/
inductive Found where
  | null
  | bool (value : Bool)
  | number (value : Number)
  | string (value : String)
  | list
  | object
  deriving Repr, DecidableEq

namespace Found

/-- What a value is found as. -/
def ofJson : Json → Found
  | .null => .null
  | .bool b => .bool b
  | .number n => .number n
  | .string s => .string s
  | .array _ => .list
  | .object _ => .object

/-- The wording of what was found. -/
def message : Found → String
  | .null => "null"
  | .bool b => s!"boolean `{b}`"
  | .number (.integer i) => s!"integer `{i}`"
  | .number (.float x) => s!"floating point `{Binary64.withExponent.text x}`"
  | .string s => s!"string {Quoted.quote s}"
  | .list => "sequence"
  | .object => "map"

end Found

/-- A value that is not what is expected in its place. -/
inductive Mismatch where
  /-- A value of another kind. -/
  | kind (found : Found) (expected : String)
  /-- A value of the right kind that is not among the expected ones. -/
  | value (found : Found) (expected : String)
  /-- A list of another length. -/
  | length (found : Nat) (expected : String)
  | missing (key : String)
  | duplicate (key : String)
  /-- A name that is none of the expected ones. -/
  | unknownName (name : String) (expected : List String)
  | timestamp (fault : Timestamp.Fault)
  deriving Repr, DecidableEq

/-- A name as messages show it. -/
def Mismatch.ticked (name : String) : String := "`" ++ name ++ "`"

/-- A choice of names: one alone, two with `or` between them, more after `one of`. -/
def Mismatch.choice : List String → String
  | [] => "nothing"
  | [a] => ticked a
  | [a, b] => ticked a ++ " or " ++ ticked b
  | names => "one of " ++ ", ".intercalate (names.map ticked)

/-- The wording of a mismatch. -/
def Mismatch.message : Mismatch → String
  | .kind found expected => s!"invalid type: {found.message}, expected {expected}"
  | .value found expected => s!"invalid value: {found.message}, expected {expected}"
  | .length found expected => s!"invalid length {found}, expected {expected}"
  | .missing key => "missing field " ++ ticked key
  | .duplicate key => "duplicate field " ++ ticked key
  | .unknownName name expected =>
    "unknown variant " ++ ticked name ++ ", expected " ++ choice expected
  | .timestamp fault => fault.message

/-- Why a text could not be read. -/
inductive Fault where
  | malformed (cause : Malformed)
  | mismatch (cause : Mismatch)
  deriving Repr, DecidableEq

namespace Fault

/-- The wording of a fault. -/
def message : Fault → String
  | .malformed cause => cause.message
  | .mismatch cause => cause.message

/-- Whether the text merely ends too early. -/
def isEnd : Fault → Bool
  | .malformed .endInValue | .malformed .endInString | .malformed .endInList | .malformed .endInObject => true
  | _ => false

end Fault

end ReadyPin
