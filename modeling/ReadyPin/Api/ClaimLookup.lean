import ReadyPin.Cluster.VolumeClaim
import ReadyPin.Error

/-!
# Looking up claims

The storage class of a claim is asked of the API each time it is needed. The names of the namespace and of the claim are
put into the path of the request as they are.

In the program: `KubeClaimResolver::storage_class_name`.
-/

namespace ReadyPin

/-- A request to the API. -/
structure ApiRequest where
  method : String
  target : String
  deriving Repr, DecidableEq

namespace ClaimRequest

/-- The path of a claim. -/
def path (inNamespace claim : String) : String :=
  s!"/api/v1/namespaces/{inNamespace}/persistentvolumeclaims/{claim}"

/-- The request for a claim, or why there can be none. -/
def target (inNamespace claim : String) : Except Uri.Fault String := Uri.target (path inNamespace claim)

/-- What a lookup sends: a single request, and none if the path of the claim is no target. -/
def requests (inNamespace claim : String) : List ApiRequest :=
  match target inNamespace claim with
  | .ok sent => [{ method := "GET", target := sent }]
  | .error _ => []

/-- The error that a failed lookup is reported as: the API's code 404 says that there is no such claim. -/
def errorOf (inNamespace claim : String) : ApiFailure → Error
  | .status e =>
    if e.code = 404 then .notFound "PersistentVolumeClaim" s!"{inNamespace}/{claim}" else .api (.status e)
  | failure => .api failure

/-- The storage class that a claim names, by the answer to the request for it. -/
def storageClass (inNamespace claim : String) (answer : ApiAnswer) : Except Error (Option String) :=
  match target inNamespace claim with
  | .error fault => .error (.api (.unwritable fault))
  | .ok _ =>
    match answer.decode VolumeClaim.read with
    | .ok c => .ok c.storageClass
    | .error failure => .error (errorOf inNamespace claim failure)

end ClaimRequest

end ReadyPin
