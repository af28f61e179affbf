import Laneway.Broker.Client

set_option autoImplicit false

/-! # Common handlers

Small handlers put together from what any handler can do: settle its delivery once or twice, fail,
crash, check or republish its body, or wait to be let go. -/

namespace Laneway.Broker

/-- A kind of handler. -/
inductive Behaviour where
  | ok
  | fail
  | crash
  /-- Settles its delivery and fails when that fails. -/
  | settle (verdict : Verdict)
  /-- Acknowledges, then fails. -/
  | ackThenFail
  | ackTwice
  /-- Fails unless the body is an object of counters. -/
  | counters
  /-- Publishes the body again under the routing key `relay`. -/
  | relay
  | hold

namespace Behaviour

/-- Ends well exactly when the last answer was good. -/
def endWith : Except Fault Unit → Handler
  | .ok () => .done .ok
  | .error _ => .done .failed

/-- Whether a value is a number that counts. -/
def isCounter : Json → Bool
  | .num (.whole n) => 0 ≤ n.val
  | _ => false

/-- Whether a body is an object of counters. -/
def areCounters (d : Delivery) : Bool :=
  match Json.readRaw d.body with
  | .ok (.obj members) => members.all fun m => isCounter m.2
  | _ => false

/-- What the handler does with a delivery once it gets to work. -/
def work (d : Delivery) : Behaviour → Handler
  | .ok => .done .ok
  | .fail => .done .failed
  | .crash => .done .crashed
  | .settle verdict => .settle verdict endWith
  | .ackThenFail => .settle .ack fun _ => .done .failed
  | .ackTwice => .settle .ack fun
    | .ok () => .settle .ack endWith
    | .error _ => .done .failed
  | .counters => .done (if areCounters d then .ok else .failed)
  | .relay => match d.json with
    | .ok body => .publish ⟨"relay", .value body, none, [], none⟩ endWith
    | .error _ => .done .failed
  | .hold => .hold fun fail => .done (if fail then .failed else .ok)

/-- The handler, asleep for `delay` before it gets to work. -/
def handler (behaviour : Behaviour) (delay : Duration) : Delivery → Handler := fun d =>
  if delay = ⟨0⟩ then behaviour.work d else .sleep delay (behaviour.work d)

end Behaviour

end Laneway.Broker
