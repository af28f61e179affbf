import Laneway.Broker.Behaviour
import Laneway.Broker.System

set_option autoImplicit false

/-! # A broker played by a script

A rehearsal runs the client against a broker that does what a script says: which calls it refuses,
how long each takes, when connections are lost and what is delivered. The clock is virtual and moves
only while something waits for it. Tasks run one at a time, first come first served, and timers that
fall due together fire in the order they were set, so a script has exactly one outcome. -/

namespace Laneway.Broker

/-- The name of a call in scripts and refusals. -/
def Call.name : Call → String
  | .prefetch _ => "prefetch"
  | .declare (.exchange _) => "declare_exchange"
  | .declare (.queue _) => "declare_queue"
  | .declare (.bind _) => "bind"
  | .publish _ _ _ => "publish"
  | .consume _ => "consume"
  | .settle _ .ack => "ack"
  | .settle _ (.nack _) => "nack"
  | .close => "close"

def connectCall : String := "connect"

/-- Of the next calls of a name, `skip` go through and `count` after them are refused. -/
structure Refusal where
  call : String
  skip : Nat
  count : Nat

/-- What the broker's side saw, in order. -/
inductive Entry where
  | connect (url : String) (time : Duration) (refused : Bool)
  | call (session : SessionId) (call : Call) (refused : Bool)
  | handle (delivery : Delivery)

/-- What wakes a task up. -/
inductive Wake where
  | signal (signal : Signal)
  /-- The connector answers; a session is opened only now. -/
  | connector (refused : Bool)

/-- A task to wake when the clock reads `due`. -/
structure Timer where
  due : Duration
  id : TaskId
  wake : Wake

structure Rehearsal where
  system : System
  /-- The tasks that can run, first come first. -/
  ready : List (TaskId × Wake)
  /-- The timers in the order they were set. -/
  timers : List Timer
  refusals : List Refusal
  latencies : List (String × Duration)
  /-- The sessions whose connection still stands, as the broker sees it. -/
  standing : List SessionId
  /-- The latest delivery known under each tag. -/
  kept : List (Nat × DeliveryId)
  sent : Nat
  log : List Entry
  /-- The background operations that have not been reported yet. -/
  background : List (TaskId × String)
  /-- How operations ended, in the order they did. -/
  endings : List (TaskId × Ending)

namespace Rehearsal

def new (settings : Settings) : Rehearsal where
  system := .new settings
  ready := []
  timers := []
  refusals := []
  latencies := []
  standing := []
  kept := []
  sent := 0
  log := []
  background := []
  endings := []

/-- Applies the first refusal for a call, if there is one: whether the call is refused, and the
    refusals after it. -/
def refuse (name : String) : List Refusal → Bool × List Refusal
  | [] => (false, [])
  | r :: rest =>
    if r.call ≠ name || r.count = 0 then
      let (refused, rest) := refuse name rest
      (refused, if r.count = 0 then rest else r :: rest)
    else if 0 < r.skip then (false, { r with skip := r.skip - 1 } :: rest)
    else (true, if r.count = 1 then rest else { r with count := r.count - 1 } :: rest)

def refusalFault (name : String) : Fault := .transport (name ++ " refused")

def answerTo (name : String) (refused : Bool) : Signal :=
  .answered (if refused then .error (refusalFault name) else .ok ())

def latency (r : Rehearsal) (name : String) : Duration := (r.latencies.lookup name).getD ⟨0⟩

/-- Lets a task run when its turn comes. -/
def enqueue (r : Rehearsal) (id : TaskId) (signal : Signal) : Rehearsal :=
  { r with ready := r.ready ++ [(id, .signal signal)] }

/-- Wakes a task at a time to come. -/
def setTimer (r : Rehearsal) (due : Duration) (id : TaskId) (wake : Wake) : Rehearsal :=
  { r with timers := r.timers ++ [⟨due, id, wake⟩] }

/-- The time `span` from now. -/
def after (r : Rehearsal) (span : Duration) : Duration :=
  ⟨r.system.now.nanoseconds + span.nanoseconds⟩

/-- Arranges what a task that waits now is waiting for, as far as it is not up to another task:
    turns and timers. -/
def arrange (r : Rehearsal) (id : TaskId) : Task → Rehearsal
  | .begin _ | .invoking _ _ | .judging _ _ => r.enqueue id .turn
  | .resting due => r.setTimer due id (.signal .elapsed)
  | .sleeping _ due _ => r.setTimer due id (.signal .elapsed)
  | .watching channel =>
    if r.standing.contains channel.session then r else r.enqueue id .lost
  | _ => r

/-- Makes the call that a task waits for. An answer that takes no time is returned, to go on with at
    once; any other comes by a timer. -/
def perform (r : Rehearsal) (id : TaskId) : Task → Rehearsal × Option Wake
  | .opening _ _ =>
    let (refused, refusals) := refuse connectCall r.refusals
    let url := r.system.client.settings.url.getD ""
    let r := { r with refusals, log := r.log ++ [.connect url r.system.now refused] }
    let span := r.latency connectCall
    if span = ⟨0⟩ then (r, some (.connector refused))
    else (r.setTimer (r.after span) id (.connector refused), none)
  | .calling session call _ =>
    let (refused, refusals) := refuse call.name r.refusals
    let r := { r with refusals, log := r.log ++ [.call session call refused] }
    let span := r.latency call.name
    let answer := Wake.signal (answerTo call.name refused)
    if span = ⟨0⟩ then (r, some answer) else (r.setTimer (r.after span) id answer, none)
  | task => (r.arrange id task, none)

/-- Hands the connect lock's grant to the task it has passed to, if that task waits for it. -/
def passLock (r : Rehearsal) (before : List TaskId) : Rehearsal :=
  match r.system.client.lock.head? with
  | none => r
  | some id =>
    if before.head? = some id then r
    else match r.system.task? id with
      | some (.locking _) => r.enqueue id .granted
      | _ => r

/-- Lets the tasks that watch the connection look at it again after it changed. -/
def wakeObservers (r : Rehearsal) (before : ConnectionState) : Rehearsal :=
  if r.system.client.state = before then r
  else r.system.tasks.foldl (fun r entry => match entry.2 with
    | .observing _ => r.enqueue entry.1 .turn
    | _ => r) r

/-- The signal a wake-up stands for; an answering connector opens a session. -/
def signalOf (r : Rehearsal) : Wake → Rehearsal × Signal
  | .signal signal => (r, signal)
  | .connector true => (r, .opened (.error (refusalFault connectCall)))
  | .connector false =>
    let (system, session) := r.system.openSession
    ({ r with system, standing := r.standing ++ [session] }, .opened (.ok session))

/-- Notes a delivery that is handed to its handler. -/
def noteInvocation (r : Rehearsal) : Task → Rehearsal
  | .invoking id _ =>
    match r.system.held? id with
    | some held => { r with
        log := r.log ++ [.handle held.delivery]
        kept := (held.delivery.tag, id) :: r.kept }
    | none => r
  | _ => r

/-- Takes account of a step: the tasks it started, the lock it passed on, the state it changed, and
    how it ended. -/
def account (r : Rehearsal) (before : Client) (activity : Activity) : Rehearsal :=
  let r := activity.started.foldl (fun r entry => r.arrange entry.1 entry.2) r
  let r := r.passLock before.lock
  let r := r.wakeObservers before.state
  match activity.next with
  | .error ending => { r with endings := r.endings ++ [(activity.id, ending)] }
  | .ok _ => r

/-- Runs one task up to its next wait that takes time. `budget` bounds the calls it makes on the
    way. -/
def run (r : Rehearsal) (id : TaskId) (wake : Wake) : (budget : Nat) → Rehearsal
  | 0 => r
  | budget + 1 =>
    let (r, signal) := r.signalOf wake
    match r.system.task? id with
    | none => r
    | some before =>
      let r := r.noteInvocation before
      match r.system.resume id signal with
      | none => r
      | some (system, activity) =>
        let client := r.system.client
        let r := { r with system }.account client activity
        match activity.next with
        | .error _ => r
        | .ok task => match r.perform id task with
          | (r, some wake) => r.run id wake budget
          | (r, none) => r

/-- More steps than any script takes at one moment. -/
def stepBudget : Nat := 1000000

/-- Runs tasks until none can run before the clock moves. -/
def settle (r : Rehearsal) : (budget : Nat) → Rehearsal
  | 0 => r
  | budget + 1 =>
    match r.ready with
    | [] => r
    | (id, wake) :: ready => ({ r with ready }.run id wake stepBudget).settle budget

def nextDue (r : Rehearsal) : Option Duration :=
  (r.timers.map (·.due.nanoseconds)).min?.map Duration.mk

/-- Moves the clock to `due`, and lets the timers due by then fire. -/
def moveTo (r : Rehearsal) (due : Duration) : Rehearsal :=
  let (fired, timers) := r.timers.partition fun t => t.due.nanoseconds ≤ due.nanoseconds
  { r with
    system := { r.system with now := due }
    timers
    ready := r.ready ++ fired.map fun t => (t.id, t.wake) }

/-- Lets time pass up to `target`, timers firing each at its own time. -/
def advance (r : Rehearsal) (target : Duration) : (budget : Nat) → Rehearsal
  | 0 => r
  | budget + 1 =>
    match r.nextDue with
    | some due =>
      if due.nanoseconds ≤ target.nanoseconds then
        ((r.moveTo due).settle stepBudget).advance target budget
      else { r with system := { r.system with now := target } }
    | none => { r with system := { r.system with now := target } }

/-- Lets time pass until the task `id` has ended, and gives its ending. -/
def await (r : Rehearsal) (id : TaskId) : (budget : Nat) → Rehearsal × Option Ending
  | 0 => (r, none)
  | budget + 1 =>
    let r := r.settle stepBudget
    match r.endings.lookup id with
    | some ending => (r, some ending)
    | none => match r.nextDue with
      | some due => (r.moveTo due).await id budget
      | none => (r, none)

/-- Begins an operation: its task. -/
def begin (r : Rehearsal) (operation : Operation) : Rehearsal × TaskId :=
  let id := r.system.nextTask
  ({ r with system := r.system.start [.begin operation] }.enqueue id .turn, id)

/-! ## Script steps -/

/-- A delivery as a script writes it. -/
structure Incoming where
  queue : String
  routingKey : String
  redelivered : Bool
  headers : Headers
  body : List UInt8

inductive Step where
  /-- An operation of the client; one with a name runs in the background. -/
  | operate (operation : Operation) (background : Option String)
  | settle (tag : Nat) (verdict : Verdict) (background : Option String)
  | lane
  | nop
  /-- Sends a delivery to the newest consumer of its queue. -/
  | deliver (incoming : Incoming)
  /-- Breaks the stream of the newest consumer of a queue. -/
  | streamError (queue : String)
  | release (tag : Nat) (fail : Bool)
  /-- Makes a delivery that belongs to no session. -/
  | delivery (tag : Nat) (incoming : Incoming)
  | inspect (tag : Nat)
  /-- Loses all connections that stand, or one. -/
  | drop (session : Option SessionId)
  | advance (span : Duration)
  | fail (refusal : Refusal)
  | heal
  | latency (call : String) (span : Duration)

/-- The answer to a step. -/
inductive Result where
  | ok
  | fault (fault : Fault)
  | state (state : ConnectionState)
  | spawned
  | lane (lane : Option String)
  /-- A number of connections, or the tag of a delivery. -/
  | number (n : Nat)
  /-- No consumer to deliver to. -/
  | noConsumer
  /-- No delivery of that tag is kept. -/
  | noDelivery
  /-- No handler holds that delivery. -/
  | notHeld
  | inspection (held : Held)
  /-- The operation never ends. -/
  | stuck

/-- The answer that an ending stands for. -/
def Result.ofEnding : Ending → Result
  | .answered (.ok ()) => .ok
  | .answered (.error cause) => .fault cause
  | .observed seen => .state seen
  | .quiet => .ok

/-- What a step shows: its answer, the log of the step, and the background operations that ended. -/
structure Report where
  result : Result
  state : ConnectionState
  now : Duration
  log : List Entry
  finished : List (String × Result)

/-- Performs an operation, awaited or in the background. -/
def operate (r : Rehearsal) (operation : Operation) (background : Option String) :
    Rehearsal × Result :=
  let (r, id) := r.begin operation
  match background with
  | some name => ({ r with background := r.background ++ [(id, name)] }, .spawned)
  | none =>
    let (r, ending) := r.await id stepBudget
    (r, (ending.map Result.ofEnding).getD .stuck)

/-- The newest consumer of a queue: its task and its session. -/
def newestConsumer (r : Rehearsal) (queue : String) : Option (TaskId × SessionId) :=
  r.system.tasks.reverse.findSome? fun entry => match entry.2 with
    | .streaming session registration =>
      if registration.queue = queue then some (entry.1, session) else none
    | _ => none

/-- The handler that holds the delivery of a tag. -/
def holder (r : Rehearsal) (tag : Nat) : Option TaskId :=
  r.system.tasks.findSome? fun entry => match entry.2 with
    | .holding id _ => match r.system.held? id with
      | some held => if held.delivery.tag = tag then some entry.1 else none
      | none => none
    | _ => none

/-- Loses a connection: its consumers vanish and its watcher hears of it. -/
def lose (r : Rehearsal) (session : SessionId) : Rehearsal :=
  let r := { r with
    system := r.system.lose session
    standing := r.standing.filter (· ≠ session) }
  r.system.tasks.foldl (fun r entry => match entry.2 with
    | .watching channel => if channel.session = session then r.enqueue entry.1 .lost else r
    | .streaming s _ => if s = session then r.enqueue entry.1 .streamEnded else r
    | _ => r) r

/-- Performs a step up to its answer. -/
def act (r : Rehearsal) : Step → Rehearsal × Result
  | .operate operation background => r.operate operation background
  | .settle tag verdict background => match r.kept.lookup tag with
    | some id => r.operate (.settle id verdict) background
    | none => (r, .noDelivery)
  | .lane => (r, .lane r.system.client.lane)
  | .nop => (r, .ok)
  | .deliver incoming => match r.newestConsumer incoming.queue with
    | none => (r, .noConsumer)
    | some (id, session) =>
      let tag := r.sent + 1
      let (system, delivery) := r.system.receive ⟨tag, incoming.queue, incoming.routingKey,
        incoming.redelivered, incoming.headers, incoming.body, some session⟩
      ({ r with system, sent := tag }.enqueue id (.arrived delivery), .number tag)
  | .streamError queue => match r.newestConsumer queue with
    | none => (r, .noConsumer)
    | some (id, _) => (r.enqueue id .streamEnded, .ok)
  | .release tag fail => match r.holder tag with
    | none => (r, .notHeld)
    | some id => (r.enqueue id (.released fail), .ok)
  | .delivery tag incoming =>
    let (system, id) := r.system.receive ⟨tag, incoming.queue, incoming.routingKey,
      incoming.redelivered, incoming.headers, incoming.body, none⟩
    ({ r with system, kept := (tag, id) :: r.kept }, .ok)
  | .inspect tag => match (r.kept.lookup tag).bind r.system.held? with
    | some held => (r, .inspection held)
    | none => (r, .noDelivery)
  | .drop session =>
    let dropped := match session with
      | some session => r.standing.filter (· = session)
      | none => r.standing
    (dropped.foldl lose r, .number dropped.length)
  | .advance span => (r.advance (r.after span) stepBudget, .ok)
  | .fail refusal => ({ r with refusals := r.refusals ++ [refusal] }, .ok)
  | .heal => ({ r with refusals := [] }, .ok)
  | .latency call span =>
    ({ r with latencies := (call, span) :: r.latencies.filter (·.1 ≠ call) }, .ok)

/-- The background operations among the endings, with their names. -/
def finished (r : Rehearsal) : List (String × Result) :=
  r.endings.filterMap fun (id, ending) =>
    (r.background.lookup id).map fun name => (name, Result.ofEnding ending)

/-- Performs a step and lets everything run that can, then reports. -/
def step (r : Rehearsal) (s : Step) : Rehearsal × Report :=
  let (r, result) := { r with log := [], endings := [] }.act s
  let r := r.settle stepBudget
  (r, ⟨result, r.system.client.state, r.system.now, r.log, r.finished⟩)

def play (settings : Settings) (script : List Step) : List Report :=
  (script.foldl (fun (r, reports) s =>
    let (r, report) := r.step s
    (r, report :: reports)) (new settings, [])).2.reverse

end Rehearsal

end Laneway.Broker
