import ReadyPin.Binary64.Shortest
import ReadyPin.Metrics.Basic

/-!
# The text of the metrics

`Metrics.exposition` writes all metrics as text for a scraper: the families in the order of their names, each with
a line of help, a line with its kind, and one line for each of its counters in the order of their labels. A family by
label without any counter is left out.

In the program: `WebhookMetrics::render`, with the `TextEncoder` of `prometheus`.
-/

namespace ReadyPin

namespace Exposition

/-- The kinds of families. -/
inductive FamilyKind where
  | counter
  | gauge
  deriving Repr, DecidableEq

/-- The word for a kind. -/
def FamilyKind.word : FamilyKind → String
  | .counter => "counter"
  | .gauge => "gauge"

/-- A label by its name and value. -/
structure Label where
  name : String
  value : String
  deriving Repr, DecidableEq

/-- A family of values. -/
structure Family where
  name : String
  help : String
  kind : FamilyKind
  /-- The values, each with its label. -/
  samples : List (Option Label × Int)
  deriving Repr

/-- One character of the value of a label. -/
def escape (c : Char) : List Char :=
  if c = '\\' then ['\\', '\\']
  else if c = '\n' then ['\\', 'n']
  else if c = '"' then ['\\', '"']
  else [c]

/-- A label in braces, its value between quotes. -/
def labelText : Option Label → List Char
  | none => []
  | some l => '\x7b' :: (l.name.toList ++ '=' :: '"' :: (l.value.toList.flatMap escape ++ ['"', '\x7d']))

/-- The integers up to this size are numbers of the binary64 format. -/
def exactLimit : Nat := 1 <<< 53

/-- A number: beyond `2 ^ 53` it is rounded to the binary64 format and written in its shortest digits. -/
def number (i : Int) : List Char :=
  if i.natAbs ≤ exactLimit then (if i < 0 then ['-'] else []) ++ Nat.toDigits 10 i.natAbs
  else ((Binary64.ofInt i).map fun x => (Binary64.plain.text x).toList).getD []

/-- The line of one value. -/
def sampleLine (name : String) (sample : Option Label × Int) : List Char :=
  name.toList ++ (labelText sample.1 ++ ' ' :: (number sample.2 ++ ['\n']))

/-- The lines of a family. -/
def Family.lines (f : Family) : List Char :=
  if f.samples.isEmpty then []
  else s!"# HELP {f.name} {f.help}\n# TYPE {f.name} {f.kind.word}\n".toList
    ++ f.samples.flatMap (sampleLine f.name)

/-- The counters of a family by the name of their label. -/
def ofCounters (labelName : String) (cs : Counters) : List (Option Label × Int) :=
  cs.entries.map fun e => (some ⟨labelName, e.1⟩, (e.2.toNat : Int))

/-- The content type of the text. -/
def contentType : String := "text/plain; version=0.0.4"

end Exposition

namespace Metrics

open Exposition

/-- The families in the order of their names. -/
def families (self : Metrics) : List Family :=
  [ { name := "driver_ready_webhook_admission_requests_total"
      help := "Admission requests by outcome"
      kind := .counter
      samples := ofCounters "outcome" self.admissions },
    { name := "driver_ready_webhook_claim_lookup_failures_total"
      help := "Persistent volume claim lookups that failed and were treated as not using the driver"
      kind := .counter
      samples := [(none, (self.lookupFailures.toNat : Int))] },
    { name := "driver_ready_webhook_driver_storage_classes"
      help := "Storage class names currently known to be driver-backed"
      kind := .gauge
      samples := [(none, self.driverClasses.toInt)] },
    { name := "driver_ready_webhook_storage_class_events_total"
      help := "Storage class watch events by type"
      kind := .counter
      samples := ofCounters "event" self.classEvents } ]

/-- The text of all metrics. -/
def exposition (self : Metrics) : String := String.ofList (self.families.flatMap Family.lines)

end Metrics

end ReadyPin
