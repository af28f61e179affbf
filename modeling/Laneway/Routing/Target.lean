import Laneway.Context
import Laneway.Http.Request
import Laneway.Routing.Topology

set_option autoImplicit false

/-! # From the name of a service to a request

The URL of a service follows from the table of services, the lane asked for, and nothing else: the
host of the lane is used only when the service is deployed in that lane, and every other request
goes to production. The headers of the context travel with the request. -/

namespace Laneway.Routing

/-- The lane a request asks for: the one named for it, even if empty, else that of the context. -/
def effectiveLane (context : Context) (lane : Option String) : Option String :=
  match lane with
  | some lane => some lane
  | none => context.lane

namespace Topology

/-- The lane of the deployment that serves a request; `none` is production. -/
def servingLane (topology : Topology) (service : String) (lane : Option String) :
    Option String :=
  (Lane.normalize lane).filter fun lane =>
    match topology.get? service with
    | some info => lane ∈ info.lanes
    | none => false

/-- The port of a service; zero when unknown. -/
def port (topology : Topology) (service : String) : UInt16 :=
  match topology.get? service with
  | some info => info.port
  | none => 0

/-- A port as written after a host: nothing for an unknown port or the default one. -/
def portText (port : UInt16) : String :=
  if port ≠ 0 ∧ port ≠ 80 then ":" ++ toString port.toNat else ""

def url (topology : Topology) (context : Context) (service path : String)
    (lane : Option String) : String :=
  let serving := topology.servingLane service (effectiveLane context lane)
  "http://" ++ Lane.host service serving ++ portText (topology.port service) ++ path

def baseUrl (topology : Topology) (context : Context) (service : String)
    (lane : Option String) : String :=
  topology.url context service "" lane

/-- A path follows the URL of its service. -/
theorem url_eq_baseUrl_append (topology : Topology) (context : Context) (service path : String)
    (lane : Option String) :
    topology.url context service path lane = topology.baseUrl context service lane ++ path := by
  simp [baseUrl, url]

/-- A request to a service with the headers of the context. -/
def request (topology : Topology) (context : Context) (method service path : String)
    (lane : Option String) : Http.Draft :=
  (Http.Draft.new method (topology.url context service path lane)).headers (context.headers lane)

end Topology

/-! ## Requests with the caller's own headers -/

/-- What a caller may add to a request. -/
structure Options where
  method : String
  /-- Headers, which win over those of the context. -/
  headers : Http.Headers
  json : Option Json
  timeout : Option Duration

/-- A request to a service as the caller wants it. -/
def Topology.fetch (topology : Topology) (context : Context) (service path : String)
    (options : Options) (lane : Option String) : Http.Draft :=
  let draft := (topology.request context options.method service path lane).headers options.headers
  let draft := match options.json with
    | some value => draft.json value
    | none => draft
  match options.timeout with
  | some timeout => draft.timeout timeout
  | none => draft

/-! ## Clients of one service -/

/-- A handle on one service. It names the service only; every request is resolved anew. -/
structure Client where
  service : String
  /-- How long each request waits for its answer. -/
  timeout : Duration
deriving DecidableEq

namespace Client

/-- A client that waits thirty seconds. -/
def new (service : String) : Client := ⟨service, .ofSeconds 30⟩

/-- The URL of the service for a request of this context. -/
def baseUrl (client : Client) (topology : Topology) (context : Context) : String :=
  topology.baseUrl context client.service none

def request (client : Client) (topology : Topology) (context : Context) (method path : String) :
    Http.Draft :=
  (topology.request context method client.service path none).timeout client.timeout

end Client

end Laneway.Routing
