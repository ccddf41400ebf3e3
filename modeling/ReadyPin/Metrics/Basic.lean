import ReadyPin.Text.ByteOrder

/-!
# Metrics

What the program counts: admission requests by their outcome, events of the storage class watch by their kind, and
failed claim lookups; and one gauge, the number of class names it knows. Counters are unsigned and the gauge is
signed, all of 64 bits.

In the program: `WebhookMetrics`, apart from `render`.
-/

namespace ReadyPin

/-! ## 1. Counters by label -/

/-- Counters by the value of their label. A counter that was never touched does not exist. -/
abbrev Counters := OrderedMap UInt64

namespace Counters

/-- The count under a label; zero where there is no counter. -/
def count (self : Counters) (label : String) : UInt64 := (self.find? label).getD 0

/-- Counts one more under a label. -/
def increment (self : Counters) (label : String) : Counters := self.alter label fun count => count.getD 0 + 1

/-- The counters with the one under a label, which is made with count zero if there is none. -/
def touch (self : Counters) (label : String) : Counters := self.alter label fun count => count.getD 0

end Counters

/-! ## 2. All metrics -/

/-- The values of all metrics. -/
structure Metrics where
  /-- Admission requests by outcome. -/
  admissions : Counters := {}
  /-- Claim lookups that failed. -/
  lookupFailures : UInt64 := 0
  /-- Events of the storage class watch by kind. -/
  classEvents : Counters := {}
  /-- The number of class names known. -/
  driverClasses : Int64 := 0
  deriving Inhabited

namespace Metrics

/-- Counts an admission request with an outcome. -/
def recordAdmission (self : Metrics) (outcome : String) : Metrics :=
  { self with admissions := self.admissions.increment outcome }

/-- Counts failed claim lookups. -/
def recordLookupFailures (self : Metrics) (count : Nat) : Metrics :=
  { self with lookupFailures := self.lookupFailures + .ofNat count }

/-- Counts an event of the storage class watch. -/
def recordClassEvent (self : Metrics) (event : String) : Metrics :=
  { self with classEvents := self.classEvents.increment event }

/-- Sets the number of class names known, which wraps around at 64 bits. -/
def setDriverClasses (self : Metrics) (count : Nat) : Metrics :=
  { self with driverClasses := .ofNat count }

/-- Reads the count of an outcome. Reading makes the counter. -/
def readAdmissions (self : Metrics) (outcome : String) : UInt64 × Metrics :=
  (self.admissions.count outcome, { self with admissions := self.admissions.touch outcome })

/-- Reads the count of a kind of event. Reading makes the counter. -/
def readClassEvents (self : Metrics) (event : String) : UInt64 × Metrics :=
  (self.classEvents.count event, { self with classEvents := self.classEvents.touch event })

end Metrics

end ReadyPin
