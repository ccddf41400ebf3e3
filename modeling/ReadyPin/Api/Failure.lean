import ReadyPin.Api.Uri
import ReadyPin.Json.StrictRecord

/-!
# Failures of the cluster's API

What can go wrong between a request to the API and a decoded answer. The API words its own errors as an `ErrorStatus`;
where the body of an error answer is none, one is made up from the status of the answer.

In the program: what the client of `kube` makes of an answer, up to `kube::Error`.
-/

namespace ReadyPin

/-! ## 1. Error statuses -/

/-- An error as the API words it. -/
structure ErrorStatus where
  status : String := ""
  message : String := ""
  reason : String := ""
  code : Nat := 0
  deriving Repr, DecidableEq, Inhabited

namespace ErrorStatus

/-- An error status, of which the texts except the status may be missing. -/
def read : Reader ErrorStatus :=
  Reader.strictRecord "ErrorResponse" 4 {}
    [ .needed "status" Source.text fun self v => { self with status := v },
      .extra "message" Source.text fun self v => { self with message := v },
      .extra "reason" Source.text fun self v => { self with reason := v },
      .needed "code" Source.word16 fun self v => { self with code := v.toNat } ]

/-- The names of the statuses of error answers. -/
def phrases : List (Nat × String) :=
  [ (400, "Bad Request"), (401, "Unauthorized"), (402, "Payment Required"), (403, "Forbidden"), (404, "Not Found"),
    (405, "Method Not Allowed"), (406, "Not Acceptable"), (407, "Proxy Authentication Required"),
    (408, "Request Timeout"), (409, "Conflict"), (410, "Gone"), (411, "Length Required"),
    (412, "Precondition Failed"), (413, "Payload Too Large"), (414, "URI Too Long"),
    (415, "Unsupported Media Type"), (416, "Range Not Satisfiable"), (417, "Expectation Failed"),
    (418, "I'm a teapot"), (421, "Misdirected Request"), (422, "Unprocessable Entity"), (423, "Locked"),
    (424, "Failed Dependency"), (426, "Upgrade Required"), (428, "Precondition Required"),
    (429, "Too Many Requests"), (431, "Request Header Fields Too Large"),
    (451, "Unavailable For Legal Reasons"), (500, "Internal Server Error"), (501, "Not Implemented"),
    (502, "Bad Gateway"), (503, "Service Unavailable"), (504, "Gateway Timeout"),
    (505, "HTTP Version Not Supported"), (506, "Variant Also Negotiates"), (507, "Insufficient Storage"),
    (508, "Loop Detected"), (510, "Not Extended"), (511, "Network Authentication Required") ]

/-- The name of a status. -/
def phrase (status : Nat) : String := (phrases.lookup status).getD "<unknown status code>"

/-- The error status of an answer whose body is none. -/
def ofBody (status : Nat) (body : String) : ErrorStatus where
  status := s!"{status} {phrase status}"
  message := Quoted.quote body
  reason := "Failed to parse error data"
  code := status

/-- All parts of an error status. -/
def details (self : ErrorStatus) : String :=
  "ErrorResponse \x7b status: " ++ Quoted.quote self.status ++ ", message: " ++ Quoted.quote self.message
    ++ ", reason: " ++ Quoted.quote self.reason ++ ", code: " ++ toString self.code ++ " \x7d"

end ErrorStatus

/-! ## 2. Failures -/

/-- Why a request to the API has no result. -/
inductive ApiFailure where
  /-- The request cannot be written. -/
  | unwritable (fault : Uri.Fault)
  /-- There is no answer. -/
  | unanswered (text : String)
  /-- The answer is not UTF-8. -/
  | notUtf8 (fault : Utf8.Invalid)
  /-- The API reports an error. -/
  | status (status : ErrorStatus)
  /-- The answer is not what was asked for. -/
  | undecodable (fault : Fault)
  deriving Repr, DecidableEq

/-- The wording of a failure. -/
def ApiFailure.message : ApiFailure → String
  | .unwritable fault => s!"Failed to build request: failed to build request: {fault.message}"
  | .unanswered text => s!"ServiceError: {text}"
  | .notUtf8 fault => s!"UTF-8 Error: {fault.message}"
  | .status e => s!"ApiError: {e.message}: {e.reason} ({e.details})"
  | .undecodable _ => "Error deserializing response"

/-! ## 3. Answers -/

/-- What comes back for a request. -/
inductive ApiAnswer where
  /-- Nothing: the connection fails. -/
  | failed (text : String)
  | answered (status : Nat) (body : List UInt8)
  deriving Repr, DecidableEq

/-- Whether a status is one of an error. -/
def ApiAnswer.isError (status : Nat) : Bool := 400 ≤ status && status ≤ 599

/-- The value that an answer carries. -/
def ApiAnswer.decode {α : Type} (read : Reader α) : ApiAnswer → Except ApiFailure α
  | .failed text => .error (.unanswered text)
  | .answered status body =>
    match Utf8.string body with
    | .error fault => .error (.notUtf8 fault)
    | .ok text =>
      if isError status then
        match Reader.all ErrorStatus.read body with
        | .ok e => .error (.status e)
        | .error _ => .error (.status (ErrorStatus.ofBody status text))
      else
        match Reader.all read body with
        | .ok v => .ok v
        | .error fault => .error (.undecodable fault)

end ReadyPin
