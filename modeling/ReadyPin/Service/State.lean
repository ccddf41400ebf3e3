import ReadyPin.Admission.Review
import ReadyPin.Classes.Event
import ReadyPin.Metrics.Basic

/-!
# The state of the service

The watch on the storage classes and the admission requests share one class set and one set of metrics. Events change
the class set, the counts of events and the gauge; decisions and requests only read the class set and change the other
counters.

`State.consume` follows a whole stream of events up to its first cancellation.

In the program: the set and the metrics that `DecisionEngine` and `ClassProjection` share, and
`ClassProjection::consume`.
-/

namespace ReadyPin

/-- The class set, and the metrics. -/
structure State where
  classes : ClassSet := {}
  metrics : Metrics := {}
  deriving Inhabited

namespace State

/-! ## 1. Events -/

/-- Takes in an event: it is counted, the class set follows it, and the gauge is set to the size of the set. -/
def apply (driver : String) (self : State) (event : ClassEvent) : State :=
  let classes := self.classes.after driver event
  { classes, metrics := (self.metrics.recordClassEvent event.kind).setDriverClasses classes.size }

/-- Takes in an error of the watch, which is only counted. -/
def recordError (self : State) : State :=
  { self with metrics := self.metrics.recordClassEvent ClassEvent.errorKind }

/-- One item of a stream of events. -/
inductive StreamItem where
  | event (event : ClassEvent)
  | error (text : String)
  /-- The end of the program is asked for. After it the stream is silent. -/
  | cancel
  deriving Repr, DecidableEq

/-- What is left when a stream has been consumed. -/
structure Consumed where
  state : State
  /-- The number of events and errors that were taken. -/
  taken : Nat
  cancelled : Bool

/-- Takes in the items of a stream one after the other, up to its end or the first cancellation. -/
def consume (driver : String) (self : State) : List StreamItem → Consumed
  | [] => ⟨self, 0, false⟩
  | .cancel :: _ => ⟨self, 0, true⟩
  | .event event :: items =>
    let rest := (self.apply driver event).consume driver items
    { rest with taken := rest.taken + 1 }
  | .error _ :: items =>
    let rest := self.recordError.consume driver items
    { rest with taken := rest.taken + 1 }

/-! ## 2. Decisions -/

variable {ε : Type}

/-- The state after a decision: its failed lookups are counted. -/
def recordVerdict (self : State) (verdict : Verdict) : State :=
  { self with metrics := self.metrics.recordLookupFailures verdict.failures }

/-- Decides on a pod. -/
def decide (driver : String) (lookup : ClaimLookup ε) (self : State) (pod : Pod) : Verdict × State :=
  let verdict := Policy.decide driver self.classes lookup pod
  (verdict, self.recordVerdict verdict)

/-- Answers the body of an admission request. The request itself is not counted. -/
def review (driver : String) (lookup : ClaimLookup ε) (self : State) (body : List UInt8) :
    Except Rejection Admission.Answered × State :=
  match Admission.podOf body with
  | .error rejection => (.error rejection, self)
  | .ok (types, request, pod) =>
    let (verdict, self) := self.decide driver lookup (Admission.placed request pod)
    (Admission.conclude driver types request.uid verdict, self)

/-- The outcome under which an admission request is counted. -/
def outcome : Except Rejection Admission.Answered → String
  | .ok answered => if answered.verdict.decision.patches then "patched" else "skipped"
  | .error _ => "rejected"

/-- Answers the body of an admission request and counts it by its outcome. -/
def handle (driver : String) (lookup : ClaimLookup ε) (self : State) (body : List UInt8) :
    Except Rejection Admission.Answered × State :=
  let (result, self) := self.review driver lookup body
  (result, { self with metrics := self.metrics.recordAdmission (outcome result) })

end State

end ReadyPin
