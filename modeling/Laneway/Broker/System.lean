import Laneway.Broker.Client

set_option autoImplicit false

/-! # The client with its tasks

A `System` is the shared state together with every task that has not ended, the clock, and what the
broker's side knows of sessions. `System.resume` performs one step of one task; any scheduler, and
any adversary, is a sequence of these steps with the moves of the outside world between them: an
operation begins, a session is opened or lost, a delivery arrives, time passes. -/

namespace Laneway.Broker

/-- The client, its unfinished tasks, and the world it runs in. -/
structure System where
  client : Client
  /-- The tasks that have not ended, in the order they were started. -/
  tasks : List (TaskId × Task)
  nextTask : TaskId
  now : Duration
  /-- How many sessions the connector has opened. -/
  sessions : Nat
  /-- The sessions whose connection was lost. -/
  lost : List SessionId

/-- What a step did. -/
structure Activity where
  id : TaskId
  /-- The point the task was resumed from. -/
  before : Task
  /-- What it was resumed with. -/
  signal : Signal
  /-- Where the task waits now, or how it ended. -/
  next : Except Ending Task
  started : List (TaskId × Task)
  /-- The settle calls it performed, in order. -/
  settlements : List Settlement

namespace System

/-- A system whose client has not connected yet and has nothing to do. -/
def new (settings : Settings) : System where
  client := .new settings
  tasks := []
  nextTask := 0
  now := ⟨0⟩
  sessions := 0
  lost := []

def task? (s : System) (id : TaskId) : Option Task := s.tasks.lookup id

/-- Gives numbers to new tasks. -/
def number (next : TaskId) : List Task → List (TaskId × Task)
  | [] => []
  | task :: rest => (next, task) :: number (next + 1) rest

/-- Adds new tasks behind all others. -/
def start (s : System) (tasks : List Task) : System :=
  { s with tasks := s.tasks ++ number s.nextTask tasks, nextTask := s.nextTask + tasks.length }

/-- Puts a task at the point where it waits now, or takes it out when it has ended. -/
def replace (tasks : List (TaskId × Task)) (id : TaskId) : Except Ending Task → List (TaskId × Task)
  | .ok task => tasks.map fun entry => if entry.1 = id then (id, task) else entry
  | .error _ => tasks.filter fun entry => entry.1 ≠ id

/-- Takes in what a step of the task `id` left behind. -/
def absorb (s : System) (id : TaskId) (reaction : Reaction) : System :=
  { s with
    client := reaction.client
    tasks := replace s.tasks id reaction.next ++ number s.nextTask reaction.started
    nextTask := s.nextTask + reaction.started.length }

/-- One step of the task `id`. -/
def resume (s : System) (id : TaskId) (signal : Signal) : Option (System × Activity) :=
  (s.task? id).map fun before =>
    let reaction := s.client.resume s.now id before signal
    (s.absorb id reaction,
      ⟨id, before, signal, reaction.next, number s.nextTask reaction.started,
        reaction.settlements⟩)

/-- The connector has opened a session: its number. -/
def openSession (s : System) : System × SessionId :=
  ({ s with sessions := s.sessions + 1 }, s.sessions + 1)

/-- A caller gives up the operation `id` wherever it waits, and its place in the connect lock. -/
def cancel (s : System) (id : TaskId) : System :=
  { s with
    client := { s.client with lock := s.client.lock.filter (· ≠ id) }
    tasks := s.tasks.filter fun entry => entry.1 ≠ id }

def lose (s : System) (session : SessionId) : System := { s with lost := session :: s.lost }

/-- A delivery comes into being: its number. -/
def receive (s : System) (delivery : Delivery) : System × DeliveryId :=
  ({ s with client := { s.client with deliveries := s.client.deliveries ++ [⟨delivery, false⟩] } },
    s.client.deliveries.length)

def held? (s : System) (id : DeliveryId) : Option Held := s.client.deliveries[id]?

end System

end Laneway.Broker
