import BacktestDesk.Backend.Settings
import BacktestDesk.Backend.Url
import BacktestDesk.Failure
import BacktestDesk.Json.Reader
import BacktestDesk.Parameters
import BacktestDesk.Text.Body

/-!
# BacktestDesk.Backend.Client

One request and what becomes of it. Every call makes at most one request and never repeats it; it
makes none when the address is not one for a request or no connection can be made. A request may be
led on by redirects, which the HTTP library follows.
-/

namespace BacktestDesk

/-- What is left to the libraries that the client is built on: encodings other than UTF-8, and the
wording of why bytes are no document. -/
structure Libraries where
  /-- The encoding that the value of a `Content-Type` header names, if it names one that is known
  and is not UTF-8. -/
  decoder? : String → Option Text.Decoder
  documentFault : List UInt8 → String

/-- A response; `contentType` is the value of the header of that name. -/
structure Response where
  status : Nat
  contentType : Option String
  body : List UInt8
  deriving DecidableEq

/-- What arrives for a request. -/
inductive Arrival where
  | response (r : Response)
  /-- The connection ends before the whole body has arrived. -/
  | cutOff (r : Response)
  /-- The connection ends without a response. -/
  | dropped
  /-- No response within the time allowed. -/
  | silent
  /-- No connection is made. -/
  | refused
  deriving DecidableEq

/-- What the backend does with a request: the addresses to which redirects lead it, one after the
other, and what arrives from the last. A response with a redirecting status that names no address to
go to is an arrival like any other. -/
structure Reply where
  redirects : List Url
  arrival : Arrival
  deriving DecidableEq

/-- A reply without redirects. -/
def Reply.direct (arrival : Arrival) : Reply :=
  ⟨[], arrival⟩

/-- A request that is made: its address, the form of the body that it asks for, and the addresses at
which it was made again because a redirect led there. -/
structure Sent where
  url : Url
  accept : String
  followed : List Url
  deriving DecidableEq

/-- The result of a call, and the requests that were made for it. -/
structure Exchange (α : Type) where
  result : Except Failure α
  sent : List Sent

def Exchange.map {α β : Type} (f : α → Except Failure β) (x : Exchange α) : Exchange β :=
  ⟨match x.result with
    | .error e => .error e
    | .ok a => f a,
   x.sent⟩

/-- An exchange that ends before anything is sent. -/
def Exchange.failed {α : Type} (e : Failure) : Exchange α :=
  ⟨.error e, []⟩

def isSuccess (status : Nat) : Bool :=
  200 ≤ status && status ≤ 299

/-- The status of a connection that goes on in another protocol. -/
def switching : Nat := 101

/-- Whether a status is that of a response. Other statuses below 200 announce one, and past 999
there are none. -/
def isFinal (status : Nat) : Bool :=
  status == switching || (200 ≤ status && status ≤ 999)

/-- The statuses whose responses have no body. -/
def isBodiless (status : Nat) : Bool :=
  status == switching || status == 204 || status == 304

/-- What arrives with a head before the connection ends. -/
def Arrival.ofHead (r : Response) (isWhole : Bool) : Arrival :=
  if !isFinal r.status then .dropped
  else if isWhole then .response r
  else .cutOff r

/-- No more redirects than these are followed. -/
def maxRedirects : Nat := 10

namespace Reply

/-- The address that a request to `u` is led to in the end. -/
def destination (reply : Reply) (u : Url) : Url :=
  (reply.redirects.take maxRedirects).getLastD u

/-- The addresses at which a request is made. Where no connection is made it is not. -/
def asked (reply : Reply) (u : Url) : List Url :=
  let trail := u :: reply.redirects.take maxRedirects
  if reply.redirects.length ≤ maxRedirects ∧ reply.arrival = .refused then trail.dropLast
  else trail

/-- The request to an address, as far as it is made. -/
def sent (reply : Reply) (u : Url) (accept : String) : List Sent :=
  match reply.asked u with
  | [] => []
  | first :: followed => [⟨first, accept, followed⟩]

end Reply

structure Client where
  libraries : Libraries
  base : String
  timeoutMs : Nat

namespace Client

/-- Slashes at the end of the address are dropped. -/
def ofSettings (libraries : Libraries) (s : Settings) : Client :=
  ⟨libraries, String.ofList (s.baseUrl.toList.reverse.dropWhile (· == '/')).reverse, s.timeoutMs⟩

/-- The address of a request: the query follows a question mark, which an empty query leaves out. -/
def url (c : Client) (endpoint : String) (ps : Parameters) : String :=
  let query := ps.query
  if query.isEmpty then c.base ++ "/" ++ endpoint
  else c.base ++ "/" ++ endpoint ++ "?" ++ query

def timedOut (c : Client) (endpoint : String) : Failure :=
  .network (endpoint ++ " request timed out after " ++ toString c.timeoutMs ++ "ms")

def unreachable (c : Client) (reason : String) : Failure :=
  .network ("could not reach backend at " ++ c.base ++ ": " ++ reason)

def broken (endpoint reason : String) : Failure :=
  .network (endpoint ++ " request failed: " ++ reason)

def sendError (u : Url) : String :=
  "error sending request for url (" ++ u.text ++ ")"

def redirectError (u : Url) : String :=
  "error following redirect for url (" ++ u.text ++ ")"

def bodyError : String := "error decoding response body"

/-- The text of a response. -/
def textOf (c : Client) (r : Response) : String :=
  Text.ofBody (r.contentType.bind c.libraries.decoder?) r.body

/-- What a complete response amounts to. -/
def complete (c : Client) (r : Response) : Except Failure Response :=
  let r := if isBodiless r.status then { r with body := [] } else r
  if isSuccess r.status then .ok r else .error (.backend r.status (c.textOf r))

/-- What an arrival from an address amounts to. -/
def settleAt (c : Client) (endpoint : String) (u : Url) : Arrival → Except Failure Response
  | .response r => c.complete r
  | .cutOff r =>
    if isBodiless r.status then c.complete r else .error (broken endpoint bodyError)
  | .dropped => .error (broken endpoint (sendError u))
  | .silent => .error (c.timedOut endpoint)
  | .refused => .error (c.unreachable (sendError u))

/-- What a reply to a request to an address amounts to. -/
def settle (c : Client) (endpoint : String) (u : Url) (reply : Reply) : Except Failure Response :=
  if maxRedirects < reply.redirects.length then
    .error (broken endpoint (redirectError (reply.destination u)))
  else c.settleAt endpoint (reply.destination u) reply.arrival

/-- Makes one request; a reply comes only to a request that is made. -/
def send (c : Client) (accept endpoint : String) (ps : Parameters) (reply : Reply) :
    Exchange Response :=
  match Url.forRequest (c.url endpoint ps) with
  | .error e => .failed (broken endpoint e.message)
  | .ok u => ⟨c.settle endpoint u reply, reply.sent u accept⟩

def notJson (endpoint reason : String) : Failure :=
  .malformed (endpoint ++ " response is not JSON: " ++ reason)

/-- The document in a body that was sent by an endpoint. -/
def document (c : Client) (endpoint : String) (body : List UInt8) : Except Failure Json :=
  match Json.ofBytes? body with
  | some v => .ok v
  | none => .error (notJson endpoint (c.libraries.documentFault body))

/-- The document in the body of a successful response. -/
def call (c : Client) (endpoint : String) (ps : Parameters) (reply : Reply) : Exchange Json :=
  (c.send "application/json" endpoint ps reply).map fun r => c.document endpoint r.body

/-- The text in the body of a successful response. -/
def callText (c : Client) (endpoint : String) (ps : Parameters) (reply : Reply) :
    Exchange String :=
  (c.send "text/plain" endpoint ps reply).map fun r => .ok (c.textOf r)

/-- The value that the document in the body of a successful response holds. -/
def callAs {α : Type} (read : Json.Reading α) (c : Client) (endpoint : String) (ps : Parameters)
    (reply : Reply) : Exchange α :=
  (c.call endpoint ps reply).map fun v =>
    match read v with
    | .ok x => .ok x
    | .error e =>
      .error (.malformed ("unexpected " ++ endpoint ++ " response shape: " ++ e.message))

end Client
end BacktestDesk
