import Laneway.Duration
import Laneway.Lane

set_option autoImplicit false

/-! # The declaration plan of a lane

What a process declares on the message broker follows from its lane and its list of logical queues
alone: first the dead-letter side, which all lanes share, then the main exchange, then each logical
queue followed by its binding. Only names derived from the lane tell one lane's plan from
another's. -/

namespace Laneway.Broker

/-- How an exchange routes. -/
inductive ExchangeKind where
  /-- To every queue bound to it. -/
  | fanout
  /-- By matching routing keys against binding patterns, after a delay the message may ask for. -/
  | delayedTopic
deriving DecidableEq, Repr

structure Exchange where
  name : String
  kind : ExchangeKind
  durable : Bool
deriving DecidableEq, Repr

structure Queue where
  name : String
  durable : Bool
  /-- Where rejected messages go. -/
  deadLetterExchange : Option String
  /-- How long the queue may stand unused before the broker deletes it. -/
  expires : Option Duration
deriving DecidableEq, Repr

/-- A binding to declare: `exchange` routes to `queue` what matches `routingKey`. -/
structure Binding where
  queue : String
  exchange : String
  routingKey : String
deriving DecidableEq, Repr

/-- A logical queue and the base of the routing key it is bound with, both without lane. -/
structure LogicalQueue where
  queue : String
  routingKey : String
deriving DecidableEq, Repr

inductive Declaration where
  | exchange (spec : Exchange)
  | queue (spec : Queue)
  | bind (spec : Binding)
deriving DecidableEq, Repr

/-- The exchange that messages are published to. -/
def mainExchange : String := "post_processing"

/-- The exchange that rejected messages go to. -/
def deadLetterExchange : String := "post_processing_dlx"

/-- The queue that keeps rejected messages. -/
def deadLetterQueue : String := "dead_letters"

/-- How long the queue of a feature lane may stand unused. -/
def idleExpiry : Duration := .ofSeconds (24 * 60 * 60)

/-- The logical queues of every process. -/
def defaultQueues : List LogicalQueue :=
  [⟨"recall", "action.recall"⟩, ⟨"vectorize", "task.vectorize"⟩]

/-- The declarations that all lanes share. -/
def sharedDeclarations : List Declaration :=
  [.exchange ⟨deadLetterExchange, .fanout, true⟩,
   .queue ⟨deadLetterQueue, true, none, none⟩,
   .bind ⟨deadLetterQueue, deadLetterExchange, ""⟩,
   .exchange ⟨mainExchange, .delayedTopic, true⟩]

/-- The queue that a logical queue stands for in a lane; in a feature lane it expires. -/
def LogicalQueue.spec (lane : Option String) (logical : LogicalQueue) : Queue where
  name := Lane.queue logical.queue lane
  durable := true
  deadLetterExchange := some deadLetterExchange
  expires := if Lane.isFeature lane then some idleExpiry else none

def LogicalQueue.binding (lane : Option String) (logical : LogicalQueue) : Binding where
  queue := Lane.queue logical.queue lane
  exchange := mainExchange
  routingKey := Lane.routingKey logical.routingKey lane

/-- The declarations of a lane, in the order they are applied. -/
def plan (lane : Option String) (queues : List LogicalQueue) : List Declaration :=
  sharedDeclarations ++ queues.flatMap fun logical =>
    [.queue (logical.spec lane), .bind (logical.binding lane)]

end Laneway.Broker
