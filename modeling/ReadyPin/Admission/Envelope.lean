import ReadyPin.Cluster.Metadata
import ReadyPin.Json.StrictRecord

/-!
# Admission reviews

The body of an admission request is a review: an envelope that names its type and carries a request, which carries
the object that is to be admitted. `AdmissionReview.parse` reads a body. How the object is read is a parameter of
everything around it: `AdmissionReview.read` reads the envelope alike for every kind of object.

Type names stand as members beside the others. They are taken out of the members at the closing brace, in document
order; for the envelope they are required, for an object they are optional, and there a failed attempt loses what it
has taken out.

In the program: `AdmissionReview`, `AdmissionRequest` and `DynamicObject` of `kube`, as `review` decodes a body.
-/

namespace ReadyPin

/-! ## 1. Type names -/

/-- The names of an object's type. -/
structure TypeNames where
  apiVersion : String
  kind : String
  deriving Repr, DecidableEq, Inhabited

namespace TypeNames

/-- The name that a member gives, unless there has been one before. -/
def nameOf (before : Option String) (key : String) (value : Json) : Except Mismatch String :=
  match before, value with
  | some _, _ => .error (.duplicate key)
  | none, .string name => .ok name
  | none, v => .error (.kind (.ofJson v) "a string")

/-- Takes the type names out of some members; also the members that are left. A member that is no string, or that
comes a second time, ends this and is taken out as well. -/
def takeFrom (apiVersion kind : Option String) :
    List (String × Json) → Except Mismatch TypeNames × List (String × Json)
  | [] =>
    match apiVersion, kind with
    | some a, some k => (.ok ⟨a, k⟩, [])
    | none, _ => (.error (.missing "apiVersion"), [])
    | some _, none => (.error (.missing "kind"), [])
  | (key, value) :: rest =>
    if key = "apiVersion" then
      match nameOf apiVersion key value with
      | .ok name => takeFrom (some name) kind rest
      | .error cause => (.error cause, rest)
    else if key = "kind" then
      match nameOf kind key value with
      | .ok name => takeFrom apiVersion (some name) rest
      | .error cause => (.error cause, rest)
    else
      let (names, left) := takeFrom apiVersion kind rest
      (names, (key, value) :: left)

/-- The type names as members. -/
def members (self : TypeNames) : List (String × Json) :=
  [("apiVersion", .string self.apiVersion), ("kind", .string self.kind)]

end TypeNames

/-! ## 2. Objects under review -/

/-- An object of any type: its metadata and its other members. -/
structure AnyObject where
  metadata : Metadata := {}
  members : List (String × Json) := []
  deriving Repr, Inhabited

namespace AnyObject

/-- What has been read of an object: its metadata, and the other members in reverse. -/
structure Draft where
  metadata : Option Metadata := none
  before : List (String × Json) := []

/-- The number of brackets that are open around a member of an object under review. -/
def outside : Nat := 3

/-- The number of brackets that may be open inside such a member. -/
def memberDepth : Nat := Reader.maxDepth - outside

/-- The next member of an object. -/
def member (draft : Draft) (key : String) : Reader Draft := do
  if key = "metadata" then
    if draft.metadata.isSome then Reader.mismatched (.duplicate key)
    else do
      Reader.colon
      let metadata ← Metadata.read outside
      pure { draft with metadata := some metadata }
  else do
    let before ← Reader.keptMember (Reader.kept memberDepth) draft.before key
    pure { draft with before }

/-- The object that has been read. -/
def ofDraft (draft : Draft) : AnyObject :=
  let (names, left) := TypeNames.takeFrom none none draft.before.reverse
  { metadata := draft.metadata.getD {}
    members :=
      match names with
      | .ok names => names.members ++ left
      | .error _ => left }

/-- An object of any type. -/
def read : Reader AnyObject := do
  match ← Reader.kind with
  | .object => ofDraft <$> Reader.members {} member
  | k => Reader.unexpected k "struct DynamicObject"

end AnyObject

/-! ## 3. Requests -/

/-- What a request asks to do with an object. -/
inductive Operation where
  | create
  | update
  | delete
  | connect
  deriving Repr, DecidableEq, Inhabited

/-- The names of the operations. -/
def Operation.names : List (String × Operation) :=
  [("CREATE", .create), ("UPDATE", .update), ("DELETE", .delete), ("CONNECT", .connect)]

/-- A request for admission, as far as it matters. -/
structure AdmissionRequest (ω : Type) where
  uid : String := ""
  operation : Operation := .create
  inNamespace : Option String := none
  /-- The object that is to be admitted. -/
  object : Option ω := none
  deriving Repr, Inhabited

namespace AdmissionRequest

/-- Required strings under the given keys, of which only the types matter. -/
def names (keys : List String) : List (Slot Unit) :=
  keys.map fun key => .needed key Source.text fun _ _ => ()

/-- The type that a request is about. -/
def groupVersionKind : Reader Unit :=
  Reader.strictRecord "GroupVersionKind" 3 () (names ["group", "version", "kind"])

/-- The resource that a request is about. Its last member, which repeats two of the others, may be left out. -/
def groupVersionResource : Reader Unit :=
  Reader.strictRecord "GroupVersionResource" 4 ()
    (names ["group", "version", "resource"] ++ [.extra "api_version" Source.text fun _ _ => ()])

/-- The user who makes a request. -/
def user : Reader Unit :=
  Source.shape "UserInfo"
    [ .typed "extra" (Source.mapOf (Source.list Source.text)),
      .typed "groups" (Source.list Source.text),
      .typed "uid" Source.text,
      .typed "username" Source.text ]

/-- The number of brackets that may be open inside the options of a request. -/
def optionsDepth : Nat := Reader.maxDepth - 2

variable {ω : Type}

/-- The members of a request. -/
def slots (readObject : Reader ω) : List (Slot (AdmissionRequest ω)) :=
  [ .needed "uid" Source.text fun self v => { self with uid := v },
    .needed "kind" groupVersionKind fun self _ => self,
    .needed "resource" groupVersionResource fun self _ => self,
    .extra "subResource" (Source.nullable Source.text) fun self _ => self,
    .extra "requestKind" (Source.nullable groupVersionKind) fun self _ => self,
    .extra "requestResource" (Source.nullable groupVersionResource) fun self _ => self,
    .extra "requestSubResource" (Source.nullable Source.text) fun self _ => self,
    .extra "name" Source.text fun self _ => self,
    .nullable "namespace" Source.text fun self v => { self with inNamespace := v },
    .needed "operation" (Reader.choice Operation.names) fun self v => { self with operation := v },
    .needed "userInfo" user fun self _ => self,
    .nullable "object" readObject fun self v => { self with object := v },
    .nullable "oldObject" AnyObject.read fun self _ => self,
    .extra "dryRun" Source.flag fun self _ => self,
    .extra "options" (Reader.kept optionsDepth) fun self _ => self ]

/-- A request. -/
def read (readObject : Reader ω) : Reader (AdmissionRequest ω) :=
  Reader.strictRecord "AdmissionRequest" 15 {} (slots readObject)

end AdmissionRequest

/-! ## 4. Responses inside a review -/

namespace AdmissionReview

/-- A cause of a status. -/
def statusCause : Reader Unit :=
  Reader.strictRecord "StatusCause" 3 ()
    [ .extra "reason" Source.text fun _ _ => (),
      .extra "message" Source.text fun _ _ => (),
      .extra "field" Source.text fun _ _ => () ]

/-- The details of a status. -/
def statusDetails : Reader Unit :=
  Reader.strictRecord "StatusDetails" 6 ()
    [ .extra "name" Source.text fun _ _ => (),
      .extra "group" Source.text fun _ _ => (),
      .extra "kind" Source.text fun _ _ => (),
      .extra "uid" Source.text fun _ _ => (),
      .extra "causes" (Source.list statusCause) fun _ _ => (),
      .extra "retryAfterSeconds" (Source.integer "u32" 0 0xffffffff) fun _ _ => () ]

/-- A status. -/
def status : Reader Unit :=
  Reader.strictRecord "Status" 5 ()
    [ .extra "status" (Source.nullable (Reader.choice [("Success", ()), ("Failure", ())])) fun _ _ => (),
      .extra "code" Source.word16 fun _ _ => (),
      .extra "message" Source.text fun _ _ => (),
      .extra "reason" Source.text fun _ _ => (),
      .extra "details" (Source.nullable statusDetails) fun _ _ => () ]

/-- A response, of which only the types matter. -/
def response : Reader Unit :=
  Reader.strictRecord "AdmissionResponse" 7 ()
    [ .needed "uid" Source.text fun _ _ => (),
      .needed "allowed" Source.flag fun _ _ => (),
      .needed "status" status fun _ _ => (),
      .nullable "patch" (Source.list (Source.integer "u8" 0 255)) fun _ _ => (),
      .nullable "patchType" (Reader.choice [("JSONPatch", ())]) fun _ _ => (),
      .extra "auditAnnotations" (Source.textMap) fun _ _ => (),
      .nullable "warnings" (Source.list Source.text) fun _ _ => () ]

end AdmissionReview

/-! ## 5. Reviews -/

/-- A review. -/
structure AdmissionReview (ω : Type) where
  types : TypeNames
  request : Option (AdmissionRequest ω)
  deriving Repr, Inhabited

namespace AdmissionReview

variable {ω : Type}

/-- What has been read of a review; its other members are in reverse. -/
structure Draft (ω : Type) where
  request : Option (Option (AdmissionRequest ω)) := none
  answered : Bool := false
  before : List (String × Json) := []

/-- The number of brackets that may be open inside a member of a review. -/
def memberDepth : Nat := Reader.maxDepth - 1

/-- The next member of a review. -/
def member (readObject : Reader ω) (draft : Draft ω) (key : String) : Reader (Draft ω) := do
  if key = "request" then
    if draft.request.isSome then Reader.mismatched (.duplicate key)
    else do
      Reader.colon
      let request ← Reader.nullable (AdmissionRequest.read readObject)
      pure { draft with request := some request }
  else if key = "response" then
    if draft.answered then Reader.mismatched (.duplicate key)
    else do
      Reader.colon
      let _ ← Reader.nullable response
      pure { draft with answered := true }
  else do
    let before ← Reader.keptMember (Reader.kept memberDepth) draft.before key
    pure { draft with before }

/-- The review that has been read. -/
def ofDraft (draft : Draft ω) : Reader (AdmissionReview ω) :=
  match (TypeNames.takeFrom none none draft.before.reverse).1 with
  | .ok types => pure { types, request := draft.request.join }
  | .error cause => Reader.mismatched cause

/-- A review. -/
def read (readObject : Reader ω) : Reader (AdmissionReview ω) := do
  match ← Reader.kind with
  | .object => do ofDraft (← Reader.members {} (member readObject))
  | k => Reader.unexpected k "struct AdmissionReview"

/-- The review that a body writes. -/
def parse (body : List UInt8) : Except Fault (AdmissionReview AnyObject) := Reader.all (read AnyObject.read) body

end AdmissionReview

end ReadyPin
