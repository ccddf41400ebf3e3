import ReadyPin.Admission.Envelope
import ReadyPin.Json.Printer
import ReadyPin.Policy.Decision

/-!
# Answering a review

`Admission.review` answers the body of an admission request. Only the creation of a pod is decided on, and every pod
that is decided on is allowed: the answer says so under the uid of the request and carries the patch if the decision
is to mutate. A body that is not such a review is rejected, and `Rejection` says why, the first reason in the order of
the checks.

The patch is put into an answer that has been made without it, `Admission.attachPatch`. It looks for the response in
any value and fails where there is none.

In the program: `review`, with `parse_pod` (`AnyObject.toPod`) and `attach_patch`.
-/

namespace ReadyPin

/-! ## 1. Rejections -/

/-- Why a body is rejected. -/
inductive Rejection where
  /-- It is no review. -/
  | undecodable (fault : Fault)
  /-- The review has no request. -/
  | noRequest
  /-- The request is not about the creation of an object. -/
  | unsupportedOperation
  /-- The request has no object. -/
  | noObject
  /-- The object is not a pod. -/
  | notPod (cause : Mismatch)
  /-- The answer has no response that the patch could be put into. -/
  | noResponse
  deriving Repr, DecidableEq

/-! ## 2. The pod of a request -/

/-- The pod that an object is; its metadata has been read already. -/
def AnyObject.toPod (self : AnyObject) : Except Mismatch Pod := do
  let pod : Pod ← (Source.record "Pod" {} Pod.fields : Held Pod) (.object self.members)
  pure { pod with metadata := self.metadata }

namespace Admission

/-- The request of a body, which must be about the creation of a pod, and the pod. -/
def podOf (body : List UInt8) : Except Rejection (TypeNames × AdmissionRequest AnyObject × Pod) :=
  match AdmissionReview.parse body with
  | .error fault => .error (.undecodable fault)
  | .ok review =>
    match review.request with
    | none => .error .noRequest
    | some request =>
      if request.operation ≠ .create then .error .unsupportedOperation
      else
        match request.object with
        | none => .error .noObject
        | some object =>
          match object.toPod with
          | .error cause => .error (.notPod cause)
          | .ok pod => .ok (review.types, request, pod)

/-- The pod in the namespace of its request: it may not carry one of its own yet. -/
def placed (request : AdmissionRequest AnyObject) (pod : Pod) : Pod :=
  { pod with metadata := { pod.metadata with inNamespace := request.inNamespace } }

/-! ## 3. The answer -/

/-- The type of the patch in an answer. -/
def patchType : String := "JSONPatch"

/-- The response that allows what is asked for; its members are in the order of their keys. -/
def allowing (uid : String) : Json := .object [("allowed", .bool true), ("status", .object []), ("uid", .string uid)]

/-- The review that answers another one of the same type, without a patch. -/
def unpatched (types : TypeNames) (uid : String) : Json := .object (types.members ++ [("response", allowing uid)])

/-- Puts a patch into the response of an answer; the members stay in the order of their keys. -/
def attachPatch (encoded : String) (answer : Json) : Except Rejection Json :=
  match answer with
  | .object members =>
    match Json.lookup members "response" with
    | some (.object response) =>
      let typed := OrderedMap.place "patchType" (fun _ => .string patchType) response
      let response := OrderedMap.place "patch" (fun _ => .string encoded) typed
      .ok (.object (OrderedMap.place "response" (fun _ => .object response) members))
    | _ => .error .noResponse
  | _ => .error .noResponse

/-- A review that has been answered. -/
structure Answered where
  verdict : Verdict
  body : List Char
  deriving Repr

/-- Answers a request that has been decided on. -/
def conclude (driver : String) (types : TypeNames) (uid : String) (verdict : Verdict) : Except Rejection Answered := do
  let whole ←
    if verdict.decision.patches then attachPatch (ReadinessPatch.ofDriver driver).encoded (unpatched types uid)
    else pure (unpatched types uid)
  pure { verdict, body := whole.print }

/-- Answers the body of an admission request. -/
def review {ε : Type} (driver : String) (classes : ClassSet) (lookup : ClaimLookup ε) (body : List UInt8) :
    Except Rejection Answered := do
  let (types, request, pod) ← podOf body
  conclude driver types request.uid (Policy.decide driver classes lookup (placed request pod))

end Admission

end ReadyPin
