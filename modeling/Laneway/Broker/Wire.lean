import Laneway.Broker.Client
import Laneway.Decimal.Single

set_option autoImplicit false

/-! # What goes over the wire

The broker speaks AMQP. Each call of the client becomes one method, or two, with typed arguments;
headers become a table of typed fields. A table holds fewer kinds of values than JSON does, so
arrays and objects travel as their JSON text, and whole numbers past 63 bits as doubles. -/

namespace Laneway.Broker

/-! ## Fields -/

/-- A typed value in a table. -/
inductive Field where
  | flag (b : Bool)
  | int8 (n : Int8)
  | uint8 (n : UInt8)
  | int16 (n : Int16)
  | uint16 (n : UInt16)
  | int32 (n : Int32)
  | uint32 (n : UInt32)
  | int64 (n : Int64)
  /-- A single-precision number, by its pattern. -/
  | single (bits : UInt32)
  | double (d : Double)
  | shortText (s : String)
  /-- Bytes that should be text. -/
  | longText (bytes : List UInt8)
  | void
  /-- A timestamp, a decimal number, raw bytes, an array or a table; none of them is read. -/
  | other
deriving DecidableEq

namespace Field

/-- The field of a JSON value. -/
def ofJson : Json → Field
  | .null => .void
  | .bool b => .flag b
  | .num (.whole n) =>
    if n.val < 0x8000000000000000 then .int64 (.ofInt n.val) else .double (Double.ofNat n.val.toNat)
  | .num (.real d) => .double d.val
  | .str s => .longText (utf8 s)
  | .arr items => .longText (utf8 (Json.arr items).text)
  | .obj members => .longText (utf8 (Json.obj members).text)

/-- A whole number, in the range of every fixed width. -/
def wholeJson (n : Int) : Json := (Json.ofInt? n).getD .null

/-- The JSON value of a field; what has none reads as null. -/
def json : Field → Json
  | .flag b => .bool b
  | .int8 n => wholeJson n.toInt
  | .uint8 n => wholeJson n.toNat
  | .int16 n => wholeJson n.toInt
  | .uint16 n => wholeJson n.toNat
  | .int32 n => wholeJson n.toInt
  | .uint32 n => wholeJson n.toNat
  | .int64 n => wholeJson n.toInt
  | .single bits => Json.ofDouble (Double.ofSingle bits)
  | .double d => Json.ofDouble d
  | .shortText s => .str s
  | .longText bytes => .str (Utf8.lossy bytes)
  | .void => .null
  | .other => .null

end Field

/-- Fields by name. -/
abbrev FieldTable := List (String × Field)

def FieldTable.ofHeaders (headers : Headers) : FieldTable :=
  headers.map fun (name, value) => (name, .ofJson value)

def FieldTable.headers (table : FieldTable) : Headers :=
  table.map fun (name, field) => (name, field.json)

/-! ## Methods -/

/-- A method that the server receives. -/
inductive Method where
  | qos (prefetchCount : UInt16)
  | exchangeDeclare (name kind : String) (durable : Bool) (arguments : FieldTable)
  | queueDeclare (name : String) (durable : Bool) (arguments : FieldTable)
  | queueBind (queue exchange routingKey : String)
  /-- `deliveryMode` is two for a message that outlives the broker; `headers` is missing when there
      are none. -/
  | publish (exchange routingKey contentType : String) (deliveryMode : Nat)
      (headers : Option FieldTable) (body : List UInt8)
  | consume (queue consumerTag : String)
  | ack (deliveryTag : Nat)
  | nack (deliveryTag : Nat) (requeue : Bool)
  | closeChannel
  | closeConnection

/-- The type an exchange is declared with. -/
def ExchangeKind.wireName : ExchangeKind → String
  | .fanout => "fanout"
  | .delayedTopic => "x-delayed-message"

/-- The arguments an exchange is declared with: one that delays messages names the type it routes
    by. -/
def ExchangeKind.arguments : ExchangeKind → FieldTable
  | .fanout => []
  | .delayedTopic => [("x-delayed-type", .longText (utf8 "topic"))]

/-- The idle expiry of a queue in milliseconds, at most the largest signed 64-bit number. -/
def expiryField (expires : Duration) : Field :=
  .int64 (.ofInt (min expires.milliseconds 0x7FFFFFFFFFFFFFFF : Nat))

def Queue.arguments (queue : Queue) : FieldTable :=
  (queue.deadLetterExchange.map fun name =>
      ("x-dead-letter-exchange", Field.longText (utf8 name))).toList
    ++ (queue.expires.map fun expires => ("x-expires", expiryField expires)).toList

/-- The methods of a call. `unique` tells the tag of a consumer from all others. -/
def Call.methods (unique : String) : Call → List Method
  | .prefetch count => [.qos count]
  | .declare (.exchange e) => [.exchangeDeclare e.name e.kind.wireName e.durable e.kind.arguments]
  | .declare (.queue q) => [.queueDeclare q.name q.durable q.arguments]
  | .declare (.bind b) => [.queueBind b.queue b.exchange b.routingKey]
  | .publish exchange routingKey m =>
    [.publish exchange routingKey m.contentType (if m.persistent then 2 else 1)
      (if m.headers.isEmpty then none else some (.ofHeaders m.headers)) m.body]
  | .consume queue => [.consume queue (consumerTag queue unique)]
  | .settle tag .ack => [.ack tag]
  | .settle tag (.nack requeue) => [.nack tag requeue]
  | .close => [.closeChannel, .closeConnection]

/-! ## Connecting -/

/-- Connecting to a broker without a network. -/
def Fault.unreachable : Fault :=
  .transport "IO error: Network is unreachable (os error 101)"

end Laneway.Broker
