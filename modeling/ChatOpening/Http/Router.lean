import ChatOpening.Http.Gate
import ChatOpening.Http.MediaType
import ChatOpening.Opening.Service

/-!
# Answering requests

Two paths have a handler: one says that the service is alive, the other opens a chat. A request to open a chat passes
four checks before the service is asked, in this order: its media type is JSON, its body is not too long, its body
means a request, and it may pass the gate. The first check that fails makes the answer, so a later one is not
made at all.

Every answer allows pages of any origin to read it, and every request with the method `OPTIONS` is answered without
looking at anything else.
-/

namespace ChatOpening

namespace Http

/-- The answer to a request that cannot be met, as it is written in JSON. -/
structure Refused where
  success : Bool
  message : String
  deriving DecidableEq, Repr

namespace Refused

def schema : Json.Schema :=
  .record "ErrorResponse" <| .field "success" .truth <| .field "message" .text .none

instance : Json.Described Refused where
  schema := schema
  toCarrier r := (r.success, r.message, ())
  ofCarrier := fun (success, message, ()) => { success, message }
  ofCarrier_toCarrier _ := rfl

end Refused

namespace Answer

def jsonType : String := "application/json"

def json (status : Nat) (body : String) : Answer :=
  ⟨status, [("content-type", jsonType)], body⟩

def plain (status : Nat) (body : String) : Answer :=
  ⟨status, [("content-type", "text/plain; charset=utf-8")], body⟩

def empty (status : Nat) (headers : List (String × String)) : Answer :=
  ⟨status, headers, ""⟩

def refused (status : Nat) (message : String) : Answer :=
  json status (Json.encode (Refused.mk false message))

end Answer

/-- The paths with a handler. -/
inductive Route where
  | health
  | openChat
  deriving DecidableEq, Repr

namespace Route

def ofPath? (path : String) : Option Route :=
  if path = "/health" then some health
  else if path = "/generate-chat-messages" then some openChat
  else none

/-- The methods of a route. -/
def methods : Route → List String
  | health => ["GET", "HEAD"]
  | openChat => ["POST"]

/-- The header that names the methods of a route. -/
def allow (route : Route) : String × String :=
  ("allow", String.intercalate "," route.methods)

end Route

/-- Why a request to open a chat does not reach the service. -/
inductive Refusal where
  | mediaType
  | tooLong
  | undecodable (report : Json.Report)
  | unauthorized
  deriving DecidableEq, Repr

namespace Refusal

def answer : Refusal → Answer
  | mediaType => .plain 415 "Expected request with `Content-Type: application/json`"
  | tooLong => .plain 413 "Failed to buffer the request body: length limit exceeded"
  | undecodable report =>
    match report.cause.class with
    | .data => .plain 422 s!"Failed to deserialize the JSON body into the target type: {report.locatedMessage}"
    | _ => .plain 400 s!"Failed to parse the request body as JSON: {report.locatedMessage}"
  | unauthorized => .refused 401 "Invalid or missing API key"

def logs : Refusal → List Journal.Record
  | unauthorized => [Journal.warn .api "Rejected request with missing or invalid API key"]
  | _ => []

end Refusal

/-- The service and the gate before it. -/
structure Router where
  service : OpeningService
  gate : Gate

namespace Router

/-- The greatest number of bytes of a body. -/
def longestBody : Nat := 2097152

/-- Whether the content type of a request is JSON. -/
def isJsonRequest (r : Request) : Bool :=
  r.header? "content-type" >>= visibleText? >>= (fun s => MediaType.ofText? s.toList) |>.any MediaType.isJson

/-- The request that the service is asked, or the first check that fails. -/
def admitted (router : Router) (r : Request) : Except Refusal OpeningRequest :=
  if !isJsonRequest r then .error .mediaType
  else if longestBody < r.body.length then .error .tooLong
  else
    match Json.decodeWith .on OpeningRequest r.body with
    | .error report => .error (.undecodable report)
    | .ok request => if router.gate.isOpenTo r then .ok request else .error .unauthorized

/-- The answer to a request to open a chat, and what is logged. -/
def openChat (router : Router) (ids : Nat → Uuid) (r : Request) : Answer × List Journal.Record :=
  match router.admitted r with
  | .error refusal => (refusal.answer, refusal.logs)
  | .ok request =>
    match router.service.openChat ids request with
    | (.ok response, logs) => (.json 200 (Json.encode response), logs)
    | (.error fault, logs) => (.refused 500 fault.message, logs)

def healthBody : String :=
  Json.writtenObject [("status", Json.writtenText "ok")]

/-- The answer to a request that says that the service is alive. -/
def health (method : String) : Answer :=
  .json 200 (if method = "HEAD" then "" else healthBody)

/-- The answer of the route, if there is one, without the headers that every answer has. -/
def routed (router : Router) (ids : Nat → Uuid) (r : Request) : Answer × List Journal.Record :=
  match Route.ofPath? r.path with
  | none => (.empty 404 [], [])
  | some route =>
    if route.methods.contains r.method then
      match route with
      | .health => (health r.method, [])
      | .openChat => router.openChat ids r
    else (.empty 405 [route.allow], [])

/-- The headers of every answer. -/
def sharedHeaders : List (String × String) :=
  [("access-control-allow-origin", "*"),
    ("vary", "origin, access-control-request-method, access-control-request-headers")]

/-- The headers of an answer that says what is allowed, besides the shared ones. -/
def preflightHeaders : List (String × String) :=
  [("access-control-allow-methods", "*"), ("access-control-allow-headers", "*")]

/-- The answer to a question for what is allowed. -/
def preflight (r : Request) : Answer :=
  .empty 200 ((Route.ofPath? r.path).toList.map Route.allow ++ preflightHeaders)

/-- The answer to a request, and what is logged. -/
def handle (router : Router) (ids : Nat → Uuid) (r : Request) : Answer × List Journal.Record :=
  let (answer, logs) := if r.method = "OPTIONS" then (preflight r, []) else router.routed ids r
  ({ answer with headers := answer.headers ++ sharedHeaders }, logs)

end Router

end Http

end ChatOpening
