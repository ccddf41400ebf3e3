import ReadyPin.Admission.Review
import ReadyPin.Api.Failure

/-!
# Errors

The errors that the program reports, each with its message and with the status that an HTTP answer gives it. Only a
request that is itself at fault has status 400.

In the program: `Error` and `Error::status_code`.
-/

namespace ReadyPin

/-- Why a metric could not be registered or counted. -/
inductive MetricsFault where
  | other (text : String)
  | alreadyRegistered
  /-- The number of label values is not that of the labels. -/
  | labelCount (expected found : Nat)
  deriving Repr, DecidableEq

/-- The wording of a fault. -/
def MetricsFault.message : MetricsFault → String
  | .other text => s!"Error: {text}"
  | .alreadyRegistered => "Duplicate metrics collector registration attempted"
  | .labelCount expected found =>
    s!"Inconsistent label cardinality, expect {expected} label values, but got {found}"

/-- An error that the program reports. -/
inductive Error where
  | internal (text : String)
  | configuration (text : String)
  | api (failure : ApiFailure)
  | notFound (kind name : String)
  | undecodableReview (detail : String)
  | unsupportedOperation
  | notPod (detail : String)
  | patchEncoding (text : String)
  | responseEncoding (text : String)
  | metrics (fault : MetricsFault)
  | io (text : String)
  deriving Repr, DecidableEq

namespace Error

/-- The message of an error. -/
def message : Error → String
  | .internal text => s!"Internal error: {text}"
  | .configuration text => s!"Configuration error: {text}"
  | .api failure => s!"Kubernetes API error: {failure.message}"
  | .notFound kind name => s!"Resource not found: {kind}/{name}"
  | .undecodableReview detail => s!"unable to decode request: {detail}"
  | .unsupportedOperation => "unsupported admission operation, operation must be 'create'"
  | .notPod detail => s!"unable to decode request object, expected v1/Pod: {detail}"
  | .patchEncoding text => s!"unable to encode patch: {text}"
  | .responseEncoding text => s!"unable to encode response: {text}"
  | .metrics fault => s!"Metrics registry error: {fault.message}"
  | .io text => s!"IO error: {text}"

/-- The HTTP status of an error. -/
def status : Error → Nat
  | .undecodableReview _ | .unsupportedOperation | .notPod _ => 400
  | _ => 500

end Error

/-- The error that a rejection is reported as. -/
def Rejection.error : Rejection → Error
  | .undecodable fault => .undecodableReview fault.message
  | .noRequest => .undecodableReview "failed to convert AdmissionReview into AdmissionRequest"
  | .unsupportedOperation => .unsupportedOperation
  | .noObject => .notPod "request carries no object"
  | .notPod cause => .notPod cause.message
  | .noResponse => .responseEncoding "review carries no response"

end ReadyPin
