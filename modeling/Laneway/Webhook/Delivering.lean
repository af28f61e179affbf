import Laneway.Binding.Resolving
import Laneway.Webhook.Relay

set_option autoImplicit false

/-! # Deliveries in a changing world

A `Delivering` is a relay with its deliveries under way, the resolver that they and others call, and
the services as they are known now. A delivery has its turn whenever the scheduler comes to it, and
otherwise waits for its lookup or for its answer; other calls, changes of the store and of the
services, and the passing of time fall between its turns. Every interleaving of them is a sequence of
steps. -/

namespace Laneway.Webhook

/-- The number of a delivery. -/
abbrev DeliveryId := Nat

/-- What a delivery waits for, and how it goes on. -/
inductive Waiting where
  /-- Its next turn. -/
  | turn (rest : Delivery)
  /-- The end of its lookup. -/
  | lookup (id : Binding.LookupId) (next : Option String → Delivery)
  /-- The answer to its request. -/
  | answer (draft : Http.Draft) (next : Except Http.Failure Http.Response → Delivery)

/-- What a delivery waits for after a call. -/
def Waiting.ofCall (next : Option String → Delivery) : Binding.Call → Waiting
  | .answered lane => .turn (next lane)
  | .waiting id => .lookup id next

/-- What a delivery does. -/
inductive Deed where
  /-- It has called for the lane of a key, and this came of it at once. -/
  | called (key : Binding.Key) (call : Binding.Call)
  /-- The lookup of its call has ended. -/
  | returned (id : Binding.LookupId) (outcome : Binding.Outcome)
  /-- It has made its request for these services, with the trace id of this number. -/
  | requested (topology : Routing.Topology) (trace : Nat) (draft : Http.Draft)
  /-- Its request is over on this network, and other hosts have seen this of it. -/
  | answered (network : Http.Network) (seen : List Http.Request)
  | ended (result : Except RelayFault Unit)

structure Delivering where
  relay : Relay
  /-- The trace ids in the order in which they are drawn. -/
  traceIds : Nat → String
  /-- How many trace ids have been drawn. -/
  drawn : Nat
  resolving : Binding.Resolving
  topology : Routing.Topology
  /-- The deliveries that are not over, in the order they were begun. -/
  waiting : List (DeliveryId × Waiting)
  /-- How many deliveries have begun, which is also the number of the next one. -/
  begun : DeliveryId

/-- A move of a delivery or of the world. -/
inductive Delivering.Move where
  /-- An event is to be delivered. -/
  | deliver (event : Event)
  /-- A delivery has its turn. -/
  | turn (id : DeliveryId)
  /-- The network answers the request of a delivery. -/
  | answer (id : DeliveryId) (network : Http.Network)
  /-- The services are known anew. -/
  | deploy (topology : Routing.Topology)
  /-- A lookup reads the store or ends, other calls are made, answers are dropped, the store changes or
      time passes. -/
  | resolver (move : Binding.Resolving.Move)

/-- What comes of a move. -/
inductive Delivering.Occurrence where
  | begun (id : DeliveryId) (event : Event)
  | did (id : DeliveryId) (deed : Deed)
  | silent

namespace Delivering

def new (relay : Relay) (traceIds : Nat → String) (topology : Routing.Topology)
    (lifetime : Duration) (store : Binding.Store) : Delivering :=
  ⟨relay, traceIds, 0, .new lifetime store, topology, [], 0⟩

/-- The delivery waits for something else. -/
def wait (d : Delivering) (id : DeliveryId) (waiting : Waiting) : Delivering :=
  { d with waiting := d.waiting.map fun entry => if entry.1 = id then (id, waiting) else entry }

/-- The delivery is over. -/
def close (d : Delivering) (id : DeliveryId) : Delivering :=
  { d with waiting := d.waiting.filter fun entry => entry.1 ≠ id }

/-- The delivery that waits for a lookup, and how it goes on. -/
def waiter? (d : Delivering) (lookup : Binding.LookupId) :
    Option (DeliveryId × (Option String → Delivery)) :=
  d.waiting.findSome? fun entry => match entry with
    | (id, .lookup other next) => if other = lookup then some (id, next) else none
    | _ => none

/-- A delivery has its turn: it goes on to the next point where it waits. -/
def turn (d : Delivering) (id : DeliveryId) : Delivery → Delivering × Deed
  | .call key next =>
    let (resolver, call) := d.resolving.resolver.resolve d.resolving.now key
    let resolving := { d.resolving with resolver }
    ({ d with resolving }.wait id (.ofCall next call), .called key call)
  | .exchange make next =>
    let draft := make d.topology (d.traceIds d.drawn)
    ({ d with drawn := d.drawn + 1 }.wait id (.answer draft next),
      .requested d.topology d.drawn draft)
  | .done result => (d.close id, .ended result)

/-- The call of a delivery is over. It crashes when the call fails. -/
def resume (d : Delivering) (id : DeliveryId) (next : Option String → Delivery) :
    Binding.Outcome → Delivering
  | .lane lane => d.wait id (.turn (next lane))
  | .outOfRange => d.close id

@[simp] theorem wait_resolving (d : Delivering) (id : DeliveryId) (waiting : Waiting) :
    (d.wait id waiting).resolving = d.resolving := rfl

@[simp] theorem close_resolving (d : Delivering) (id : DeliveryId) :
    (d.close id).resolving = d.resolving := rfl

@[simp] theorem resume_resolving (d : Delivering) (id : DeliveryId)
    (next : Option String → Delivery) (outcome : Binding.Outcome) :
    (d.resume id next outcome).resolving = d.resolving := by cases outcome <;> rfl

/-- One move, if it is possible. -/
def step (d : Delivering) : Move → Option (Delivering × Occurrence)
  | .deliver event =>
    some ({ d with
        waiting := d.waiting ++ [(d.begun, .turn (d.relay.deliver event))]
        begun := d.begun + 1 },
      .begun d.begun event)
  | .turn id =>
    match d.waiting.lookup id with
    | some (.turn rest) =>
      let (d, deed) := d.turn id rest
      some (d, .did id deed)
    | _ => none
  | .answer id network =>
    match d.waiting.lookup id with
    | some (.answer draft next) =>
      some (d.wait id (.turn (next (draft.send network))),
        .did id (.answered network (draft.seen network)))
    | _ => none
  | .deploy topology => some ({ d with topology }, .silent)
  | .resolver move =>
    (d.resolving.step move).map fun (resolving, event) =>
      let resolved := { d with resolving }
      match event with
      | .ended lookup outcome =>
        match d.waiter? lookup with
        | some (id, next) => (resolved.resume id next outcome, .did id (.returned lookup outcome))
        | none => (resolved, .silent)
      | _ => (resolved, .silent)

end Delivering

end Laneway.Webhook
