import ReadyPin.Json.Printer

/-!
# Logging

A line of the log has a level, a target that says which part of the program wrote it, and a message. A filter decides
which lines are written: it is a list of directives, each a level for the targets that begin in some way, and the
directive with the longest such beginning decides.

In the program: `init_logging` and `parse_directive`.
-/

namespace ReadyPin

/-! ## 1. Levels -/

/-- How much is let through. -/
inductive LogLevel where
  | off
  | error
  | warn
  | info
  | debug
  | trace
  deriving Repr, DecidableEq

namespace LogLevel

/-- The place of a level among the others. -/
def rank : LogLevel → Nat
  | .off => 0
  | .error => 1
  | .warn => 2
  | .info => 3
  | .debug => 4
  | .trace => 5

/-- The word for a level. -/
def word : LogLevel → String
  | .off => "OFF"
  | .error => "ERROR"
  | .warn => "WARN"
  | .info => "INFO"
  | .debug => "DEBUG"
  | .trace => "TRACE"

/-- All levels. -/
def levels : List LogLevel := [.off, .error, .warn, .info, .debug, .trace]

/-- The level of a directive: its word in any case, or the digit of its rank. -/
def ofDirective? (text : String) : Option LogLevel :=
  levels.find? fun l => text.toUpper == l.word || text == toString l.rank

/-- The level that is asked for by an option: a word in any case, and `info` for anything else. -/
def ofOption (text : String) : LogLevel :=
  match levels.find? fun l => text.toUpper == l.word && l != .off with
  | some l => l
  | none => .info

end LogLevel

/-! ## 2. Filters -/

/-- A level for the targets that begin in some way. -/
structure Directive where
  /-- The beginning of the targets; the empty one is that of all. -/
  target : String
  level : LogLevel
  deriving Repr, DecidableEq

namespace Directive

/-- Whether a character may stand in a target. -/
def inTarget (c : Char) : Bool := c.isAlphanum || c == '_' || c == ':' || c == '-'

/-- The directive that a text stands for: a level, a target, or a target with its level after an equals sign. A target
alone lets everything through. -/
def ofText? (text : String) : Option Directive :=
  match LogLevel.ofDirective? text with
  | some level => some ⟨"", level⟩
  | none =>
    let cs := text.toList
    let target := cs.takeWhile (· != '=')
    let rest := cs.dropWhile (· != '=')
    if target.isEmpty || !target.all inTarget then none
    else if rest.length ≤ 1 then some ⟨String.ofList target, .trace⟩
    else (LogLevel.ofDirective? (String.ofList (rest.drop 1))).map fun level => ⟨String.ofList target, level⟩

end Directive

/-- A list of directives, at most one for each beginning. -/
abbrev LogFilter := List Directive

namespace LogFilter

/-- The filter with a directive, in the stead of one for the same beginning. -/
def add (self : LogFilter) (d : Directive) : LogFilter := self.filter (·.target != d.target) ++ [d]

/-- The filter of a text with commas between its directives. What is no directive is left out. -/
def ofText (text : String) : LogFilter :=
  ((text.splitOn ",").filterMap Directive.ofText?).foldl add []

/-- The level for a target: that of the longest beginning. -/
def levelFor (self : LogFilter) (target : String) : LogLevel :=
  let fitting := self.filter fun d => d.target.toList.isPrefixOf target.toList
  (fitting.foldl (fun best d =>
    match best with
    | none => some d
    | some b => if d.target.length < b.target.length then some b else some d) none).elim .off Directive.level

/-- Whether a line of some level is let through. -/
def allows (self : LogFilter) (target : String) (level : LogLevel) : Bool :=
  decide (level.rank ≤ (self.levelFor target).rank)

end LogFilter

/-! ## 3. Lines -/

/-- A line of the log. -/
structure LogLine where
  level : LogLevel := .info
  target : String := "driver_ready_webhook"
  message : String
  /-- Further facts beside the message. -/
  fields : List (String × String) := []
  deriving Repr, DecidableEq

namespace LogLine

/-- A line as text, its further facts behind the message. -/
def plain (self : LogLine) : String :=
  let facts := self.fields.map fun f => s!" {f.1}={f.2}"
  s!"{self.level.word} {self.target}: {self.message}" ++ String.join facts

/-- A line as a JSON object with its members in the order of their keys. -/
def json (self : LogLine) : Json :=
  let facts := self.fields ++ [("message", self.message)]
  .object
    [ ("fields", .object ((Json.settled facts).map fun f => (f.1, .string f.2))),
      ("level", .string self.level.word),
      ("target", .string self.target) ]

end LogLine

end ReadyPin
