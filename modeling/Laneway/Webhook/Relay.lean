import Laneway.Binding.Store
import Laneway.Config
import Laneway.Routing.Target

set_option autoImplicit false

/-! # Relaying events to the service that handles them

Every accepted event is passed on in one request to the target service, in the lane its bot is
bound to. The request carries nothing of the request that brought the event: it names the bot as
the calling application, has a trace id of its own, and proves itself with a bearer secret. A
`Delivery` is all that is done for an event, from the call for the lane to the outcome. -/

namespace Laneway.Webhook

/-- Where events are relayed to. -/
structure Target where
  service : String
  path : String
deriving DecidableEq

namespace Target

/-- Where events are relayed to unless configured otherwise. -/
def standard : Target := ⟨"lark-server", "/api/internal/lark-event"⟩

/-- Where a configured server relays events to. -/
def ofConfig (config : Config) : Target := ⟨config.relayService, config.relayPath⟩

end Target

/-- An event to relay. -/
structure Event where
  type : String
  bot : String
  params : Json

def Event.body (event : Event) : Json :=
  .obj [("event_type", .str event.type), ("params", event.params)]

structure Relay where
  target : Target
  /-- What the target service knows the relay by. -/
  secret : String
deriving DecidableEq

/-- Why an event did not get through. -/
inductive RelayFault where
  /-- There was no answer. -/
  | http (failure : Http.Failure)
  /-- The target answered with a status that does not tell success. -/
  | status (code : Nat) (body : String)
deriving DecidableEq

/-- The fault in words; the wording of a failed exchange is not part of it. -/
def RelayFault.message : RelayFault → Option String
  | .http _ => none
  | .status code body => some ("Target responded " ++ toString code ++ ": " ++ body)

/-- A delivery at a point where it waits for something: what that is, and how it goes on. -/
inductive Delivery where
  /-- It calls for the lane that is bound to a key. -/
  | call (key : Binding.Key) (next : Option String → Delivery)
  /-- It sends a request, which is made for the services as they are then, with a trace id that was
      made for it. -/
  | exchange (make : Routing.Topology → (traceId : String) → Http.Draft)
      (next : Except Http.Failure Http.Response → Delivery)
  | done (result : Except RelayFault Unit)

namespace Relay

/-- The request for an event. `lane` is what the bot is bound to, and `traceId` was made for this
    request. -/
def request (relay : Relay) (topology : Routing.Topology) (lane : Option String)
    (traceId : String) (event : Event) : Http.Draft :=
  let draft :=
    topology.request .empty "POST" relay.target.service relay.target.path lane
  (((draft.header Context.appHeader event.bot).header Context.traceHeader traceId).bearer
    relay.secret).json event.body

/-- What the answer to a relayed event means. -/
def taken (answer : Except Http.Failure Http.Response) : Except RelayFault Unit :=
  match answer with
  | .error failure => .error (.http failure)
  | .ok response =>
    if response.isSuccess then .ok ()
    else .error (.status response.status (Utf8.lossy response.body))

/-- What is left to do for an event when the lane is known. -/
def deliverIn (relay : Relay) (event : Event) (lane : Option String) : Delivery :=
  .exchange (fun topology traceId => relay.request topology lane traceId event) fun answer =>
    .done (taken answer)

/-- Delivers an event in the lane that its bot is bound to. -/
def deliver (relay : Relay) (event : Event) : Delivery :=
  .call ⟨.bot, event.bot⟩ (relay.deliverIn event)

end Relay

end Laneway.Webhook
