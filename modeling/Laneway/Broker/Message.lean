import Laneway.Broker.Plan
import Laneway.Json.Printer
import Laneway.Json.Reader
import Laneway.Text.Quoted

set_option autoImplicit false

/-! # Messages and deliveries

A message goes out under a routing key with headers; a delivery comes in from a queue under a tag
that means something only on the session it arrived on. -/

namespace Laneway.Broker

/-- Headers sorted by name, one value each. -/
abbrev Headers := List (String × Json)

/-- The header that asks the exchange to hold a message back. -/
def delayHeader : String := "x-delay"

def jsonContentType : String := "application/json"

structure Message where
  body : List UInt8
  contentType : String
  persistent : Bool
  headers : Headers

/-- A body to publish. -/
inductive Body where
  | value (json : Json)
  /-- A map whose keys are no text, which no JSON can hold. -/
  | textlessKeys

/-- The bytes of a body, or why it has none. -/
def Body.encode : Body → Except String (List UInt8)
  | .value json => .ok json.bytes
  | .textlessKeys => .error "key must be a string"

/-- What a caller asks to publish. -/
structure Publication where
  /-- The routing key without lane. -/
  routingKeyBase : String
  body : Body
  /-- How long the exchange holds the message back. -/
  delay : Option Duration
  headers : Headers
  /-- The lane published to, in place of the process lane; the name of production is a lane here. -/
  lane : Option String

/-- The value of the delay header: whole milliseconds, at most the largest 64-bit number. -/
def delayValue (delay : Duration) : Json :=
  Json.ofNat (min delay.milliseconds 0xFFFFFFFFFFFFFFFF)

/-- The headers a publication goes out with: the delay header follows from the delay alone when
    there is one. -/
def Publication.outboundHeaders (p : Publication) : Headers :=
  match p.delay with
  | some delay => Json.insertMember delayHeader (delayValue delay) p.headers
  | none => p.headers

/-- The lane a publication goes to: its own, else the process lane. -/
def Publication.effectiveLane (p : Publication) (processLane : Option String) : Option String :=
  match p.lane with
  | some lane => Lane.normalize (some lane)
  | none => Lane.normalize processLane

def Publication.routingKey (p : Publication) (processLane : Option String) : String :=
  Lane.routingKey p.routingKeyBase (p.effectiveLane processLane)

def Publication.message (p : Publication) (body : List UInt8) : Message :=
  ⟨body, jsonContentType, true, p.outboundHeaders⟩

/-- Sessions are numbered in the order the connector opened them. -/
abbrev SessionId := Nat

/-- A message received from a queue. -/
structure Delivery where
  tag : Nat
  queue : String
  routingKey : String
  redelivered : Bool
  headers : Headers
  body : List UInt8
  /-- The session it arrived on, the only one where its tag is known. -/
  session : Option SessionId

def Delivery.json (d : Delivery) : Except Json.ReadError Json := Json.read d.body

/-- A delivery shown to people, without its body. -/
def Delivery.show (d : Delivery) (settled : Bool) : String :=
  "Delivery \x7b delivery_tag: " ++ toString d.tag
    ++ ", queue: " ++ Quoted.text d.queue
    ++ ", routing_key: " ++ Quoted.text d.routingKey
    ++ ", redelivered: " ++ toString d.redelivered
    ++ ", body_len: " ++ toString d.body.length
    ++ ", settled: " ++ toString settled ++ ", .. \x7d"

inductive Verdict where
  /-- Done. -/
  | ack
  /-- Refused, back into its queue or to the dead letters. -/
  | nack (requeue : Bool)
deriving DecidableEq, Repr

end Laneway.Broker
