import Laneway.Binding.Store
import Laneway.Http.Form
import Laneway.Http.MediaType
import Laneway.Json.Reader
import Laneway.Routing.Target
import Laneway.Server.Reply
import Laneway.Server.Route
import Laneway.Webhook.Bot
import Laneway.Webhook.Inbound
import Laneway.Webhook.Relay

set_option autoImplicit false

/-! # How the server answers a request

`App.handle` decides what a request is answered and what it sets off, from the request and from
what the server holds at that moment. Faults are looked for in a fixed order: route, method, path,
query, announced type, length and syntax of the body, and only then the bot and its token. -/

namespace Laneway.Server

/-- A request as it comes in. -/
structure Incoming where
  method : String
  path : String
  query : Option String
  headers : Http.Headers
  body : List UInt8

/-- The request for a path that may be followed by a query. -/
def Incoming.ofUri (method uri : String) (headers : Http.Headers) (body : List UInt8) :
    Incoming :=
  let written := uri.toList.takeWhile (· ≠ '#')
  let path := written.takeWhile (· ≠ '?')
  let query := match written.drop path.length with
    | '?' :: rest => some (String.ofList rest)
    | _ => none
  ⟨method, String.ofList path, query, headers, body⟩

/-- What the server holds that answers depend on. -/
structure App where
  /-- The build that the health check reports. -/
  version : String
  bots : Webhook.Bots
  topology : Routing.Topology

/-- What is made anew for each request. -/
structure Fresh where
  /-- The trace id of a request that brings none. -/
  traceId : String
  /-- The moment, as text. -/
  timestamp : String

/-- What a request sets off. -/
inductive Effect where
  | relay (event : Webhook.Event)
  | forget (key : Binding.Key)
  | forgetAll

namespace App

/-- The service the health check names. -/
def serviceName : String := "lark-proxy"

/-- The longest body that is read. -/
def bodyLimit : Nat := 2 * 1024 * 1024

/-! ## Health and routing -/

def health (app : App) (fresh : Fresh) : Json :=
  .obj [("status", .str "ok"), ("service", .str serviceName), ("version", .str app.version),
    ("timestamp", .str fresh.timestamp)]

/-- A parameter of a query, which may not stand twice. -/
def parameter (pairs : List (String × String)) (name : String) :
    Except Refusal (Option String) :=
  match (pairs.filter fun p => p.1 = name).map (·.2) with
  | [] => .ok none
  | [value] => .ok (some value)
  | _ => .error .query

/-- A text, or null. -/
def optional : Option String → Json
  | some text => .str text
  | none => .null

/-- Shows how a service is resolved for the lane of the query, or else that of the request. -/
def resolve (app : App) (context : Context) (service : String)
    (pairs : List (String × String)) : Except Refusal Json := do
  let path ← parameter pairs "path"
  let lane ← parameter pairs "lane"
  -- an empty lane in the query is none
  let lane := lane.filter (· ≠ "")
  return .obj [
    ("service", .str service),
    ("url", .str (app.topology.url context service (path.getD "") lane)),
    ("lane", optional (Routing.effectiveLane context lane)),
    ("info", match app.topology.get? service with
      | some info => info.json
      | none => .null)]

/-! ## Webhooks -/

/-- The JSON body of a request. -/
def body (request : Incoming) : Except Refusal Json :=
  if !request.headers.announceJson then .error .mediaType
  else if bodyLimit < request.body.length then .error .tooLong
  else match Json.read request.body with
    | .ok value => .ok value
    | .error _ => .error .syntaxFault

/-- Answers what came in for a bot: a handshake with its challenge, anything else with an empty
    object. -/
def accept (app : App) (name : String) (inbound : Webhook.Inbound) :
    Except Refusal (Reply × Option Effect) :=
  match app.bots.get? name with
  | none => .error (.unknownBot name)
  | some bot =>
    if !bot.accepts inbound.token then .error .invalidToken
    else match inbound with
      | .challenge text _ => .ok (.ok (.obj [("challenge", .str text)]), none)
      | .payload eventType _ params =>
        -- other events are accepted too, but nothing comes of them
        .ok (.ok (.obj []),
          if Webhook.isForwardable eventType then some (.relay ⟨eventType, name, params⟩) else none)

/-! ## Requests -/

def pathText (written : String) : Except Refusal String :=
  match parameter? written with
  | some text => .ok text
  | none => .error .path

def answer (app : App) (fresh : Fresh) (request : Incoming) :
    Route → Except Refusal (Reply × Option Effect)
  | .health => .ok (.ok (app.health fresh), none)
  | .services => .ok (.ok app.topology.json, none)
  | .service written => do
    let service ← pathText written
    let context := Context.ofHeaders fresh.traceId request.headers
    let shown ← app.resolve context service (Http.Form.parse (request.query.getD ""))
    return (.ok shown, none)
  | .lanes => .ok (.done, some .forgetAll)
  | .lane kindWritten keyWritten => do
    let kindName ← pathText kindWritten
    let key ← pathText keyWritten
    match RouteType.ofName? kindName with
    | some kind => return (.done, some (.forget ⟨kind, key⟩))
    | none => .error .path
  | .event written => do
    let name ← pathText written
    let value ← body request
    app.accept name (.ofEvent value)
  | .card written => do
    let name ← pathText written
    let value ← body request
    app.accept name (.ofCard value)

/-- What a request is answered and what it sets off, or why it is refused. -/
def dispatch (app : App) (fresh : Fresh) (request : Incoming) :
    Except Refusal (Reply × Option Effect) :=
  match Route.ofPath request.path with
  | none => .error .noRoute
  | some route =>
    if request.method ∈ route.methods then app.answer fresh request route
    else .error (.method route.methods)

/-- The reply to a request and what it sets off. A refused request sets off nothing. -/
def handle (app : App) (fresh : Fresh) (request : Incoming) : Reply × Option Effect :=
  let (reply, effect) := match app.dispatch fresh request with
    | .ok answered => answered
    | .error refusal => (refusal.reply, none)
  (if request.method = "HEAD" then reply.head else reply, effect)

end App

end Laneway.Server
