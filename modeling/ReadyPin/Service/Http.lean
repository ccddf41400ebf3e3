import ReadyPin.Error
import ReadyPin.Service.State

/-!
# The HTTP service

Two paths are known: admission requests are posted to one, and the other tells that the service lives. `Http.respond`
first looks at the path, then at the method, then at the size of the body; only what passes all three is reviewed and
counted.

In the program: `WebhookRouter::build`, with its handlers `healthz` and `inject_driver_ready_selector`.
-/

namespace ReadyPin.Http

/-! ## 1. Messages -/

/-- A request. Its headers play no part. -/
structure Request where
  method : String
  /-- What the request is for: a path with or without a query, or a whole URI. -/
  target : String
  body : List UInt8 := []
  deriving Repr, DecidableEq

/-- A response. -/
structure Response where
  status : Nat
  headers : List (String × String)
  body : List Char := []
  deriving Repr, DecidableEq

/-- A header with the number of bytes of a body. -/
def lengthHeader (body : List Char) : String × String :=
  ("content-length", toString (Utf8.encode body).length)

/-- A response with a body of some type. -/
def Response.ofBody (status : Nat) (contentType : String) (body : List Char) : Response where
  status := status
  headers := [("content-type", contentType), lengthHeader body]
  body := body

/-- A response with a text. -/
def Response.ofText (status : Nat) (text : String) : Response :=
  .ofBody status "text/plain; charset=utf-8" text.toList

/-- A response without a body. -/
def Response.empty (status : Nat) (headers : List (String × String)) : Response where
  status := status
  headers := headers ++ [lengthHeader []]

/-- The response without its body, whose headers stay. -/
def Response.withoutBody (self : Response) : Response := { self with body := [] }

/-! ## 2. Routes -/

/-- The path that admission requests are posted to. -/
def mutatePath : String := "/mutate-inject-driver-ready-selector"

/-- The path that tells whether the service lives. -/
def healthPath : String := "/healthz"

/-- What is before the query and the fragment. -/
def beforeQuery (cs : List Char) : List Char := cs.takeWhile fun c => c != '?' && c != '#'

/-- What follows the first `://`, if there is one. -/
def afterScheme? : List Char → Option (List Char)
  | ':' :: '/' :: '/' :: rest => some rest
  | _ :: rest => afterScheme? rest
  | [] => none

/-- The path of a target: of a whole URI what stands between the host and the query. -/
def pathOf (target : String) : String :=
  let cs := target.toList
  if cs.head? = some '/' then String.ofList (beforeQuery cs)
  else
    match afterScheme? cs with
    | some rest => String.ofList ((beforeQuery rest).dropWhile (· != '/'))
    | none => String.ofList (beforeQuery cs)

/-- What a request reaches. -/
inductive Route where
  /-- No known path. -/
  | unknown
  /-- A known path, which answers only the given methods. -/
  | wrongMethod (allowed : String)
  /-- The liveness probe, with or without its body. -/
  | health (withBody : Bool)
  /-- The review of a body. -/
  | mutate
  deriving Repr, DecidableEq

/-- The route of a request. -/
def route (request : Request) : Route :=
  let path := pathOf request.target
  if path = mutatePath then
    if request.method = "POST" then .mutate else .wrongMethod "POST"
  else if path = healthPath then
    if request.method = "GET" then .health true
    else if request.method = "HEAD" then .health false
    else .wrongMethod "GET,HEAD"
  else .unknown

/-! ## 3. Responses -/

/-- The greatest size of a body if nothing else is asked for. -/
def defaultBodyLimit : Nat := 3 * 1024 * 1024

/-- The response that tells that the service lives. -/
def alive : Response := .ofText 200 "OK"

/-- The response to a body that is too large. -/
def tooLarge : Response := .ofText 413 "Failed to buffer the request body: length limit exceeded"

/-- The response to a reviewed body. -/
def reviewed : Except Rejection Admission.Answered → Response
  | .ok answered => .ofBody 200 "application/json" answered.body
  | .error rejection => .ofText rejection.error.status rejection.error.message

/-- A response with what the review of the body found, if there was one. -/
structure Exchange where
  response : Response
  review : Option (Except Rejection Admission.Answered) := none

variable {ε : Type}

/-- Answers a request. -/
def respond (driver : String) (lookup : ClaimLookup ε) (bodyLimit : Nat) (state : State) (request : Request) :
    Exchange × State :=
  match route request with
  | .unknown => ({ response := .empty 404 [] }, state)
  | .wrongMethod allowed => ({ response := .empty 405 [("allow", allowed)] }, state)
  | .health true => ({ response := alive }, state)
  | .health false => ({ response := alive.withoutBody }, state)
  | .mutate =>
    if request.body.length ≤ bodyLimit then
      let (result, state) := state.handle driver lookup request.body
      ({ response := reviewed result, review := some result }, state)
    else ({ response := tooLarge }, state)

end ReadyPin.Http
