import Laneway.Duration
import Laneway.Http.Headers
import Laneway.Http.Url
import Laneway.Json.Printer
import Laneway.Text.Base64

set_option autoImplicit false

/-! # Building and exchanging HTTP requests

A request is put together part by part, and the first part that is invalid spoils it: nothing will
be sent. What comes of a request that is sent is up to a `Network`, a function that stands for
everything outside this process. -/

namespace Laneway.Http

/-- Why a request brought no answer that can be used. -/
inductive Failure where
  /-- Its URL or one of its headers is invalid; nothing was sent. -/
  | invalid
  | timedOut
  /-- The body of the answer is not what was expected. -/
  | undecodable
  /-- No connection could be made. -/
  | unreached
  /-- The connection was closed without an answer. -/
  | unanswered
deriving DecidableEq, Repr

structure Request where
  method : String
  url : Url
  headers : Headers
  body : List UInt8
  timeout : Option Duration
deriving DecidableEq

structure Response where
  status : Nat
  body : List UInt8
deriving DecidableEq

/-- Statuses from 200 to 299 tell success. -/
def Response.isSuccess (response : Response) : Bool :=
  200 ≤ response.status && response.status < 300

/-- What the outside world makes of each request that is sent. -/
abbrev Network := Request → Except Failure Response

/-- The network of a host that is not connected: no request reaches another host. -/
def Network.unreachable : Network := fun _ => .error .unreached

/-! ## Building -/

/-- A request in the making. -/
abbrev Draft := Except Failure Request

/-- The header for a body's type. -/
def contentType : String := "content-type"

/-- The header for what proves who is asking. -/
def authorization : String := "authorization"

/-- The decoded text of a part of the credentials. -/
def credentialText? (written : String) : Option String := Utf8.text? (Percent.decode (utf8 written))

/-- Moves the credentials of a URL into a header. They stay where they are when the user name is no
    text, and a password that is no text is dropped. -/
def Request.withoutCredentials (request : Request) : Request :=
  match request.url.credentials with
  | none => request
  | some credentials =>
    match credentialText? credentials.user with
    | none => request
    | some user =>
      let password := credentials.password.bind credentialText?
      if user = "" ∧ password = none then request
      else
        let value := "Basic " ++ Base64.encode (utf8 (user ++ ":" ++ password.getD ""))
        { request with
          url := { request.url with credentials := none }
          headers := request.headers.append authorization (utf8 value) }

namespace Draft

/-- A request for a URL without headers and body. -/
def new (method url : String) : Draft :=
  match Url.parse? url with
  | some url => .ok (Request.withoutCredentials ⟨method, url, [], [], none⟩)
  | none => .error .invalid

/-- Sets headers, each name as a whole. -/
def headers (draft : Draft) (headers : Headers) : Draft :=
  draft.map fun request => { request with headers := request.headers.override headers }

/-- Adds a header, whose value must be one that may be sent. -/
def header (draft : Draft) (name value : String) : Draft := do
  let request ← draft
  match Headers.sendable? value with
  | some bytes => .ok { request with headers := request.headers.append name bytes }
  | none => .error .invalid

def bearer (draft : Draft) (secret : String) : Draft :=
  draft.header authorization ("Bearer " ++ secret)

/-- Sets a JSON body, and its type unless there is one already. -/
def json (draft : Draft) (value : Json) : Draft :=
  draft.map fun request =>
    { request with
      body := value.bytes
      headers := if request.headers.has contentType then request.headers
        else request.headers.append contentType (utf8 "application/json") }

def timeout (draft : Draft) (timeout : Duration) : Draft :=
  draft.map fun request => { request with timeout := some timeout }

/-- The request that is sent, if any is. -/
def sent (draft : Draft) : Except Failure Request := do
  let request ← draft
  if request.url.isSendable then .ok request else .error .invalid

def send (draft : Draft) (network : Network) : Except Failure Response := do
  network (← draft.sent)

/-- The request as other hosts see it, if it reaches any. -/
def seen (draft : Draft) (network : Network) : List Request :=
  match draft.sent with
  | .error _ => []
  | .ok request =>
    match network request with
    | .error .unreached => []
    | _ => [request]

end Draft

end Laneway.Http
