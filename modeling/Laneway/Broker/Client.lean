import Laneway.Broker.Fault
import Laneway.Broker.Message
import Laneway.Config

set_option autoImplicit false

/-! # The broker client

One connection and one channel serve the whole process. Operations, handlers, the reconnect loop
and the watchers of lost connections all run as tasks over one shared `Client` state. A task is the
data needed to go on from the point where it waits, and `Client.resume` is the code from one such
point to the next: nothing else touches the state in between, so any interleaving of tasks is a
sequence of `resume` steps.

A connection attempt holds the connect lock from start to end. A session opened after an earlier
one (a recovery) gets the whole declaration plan and every registered consumer before it is
installed, so nothing is ever published to a channel whose queues are missing. -/

namespace Laneway.Broker

structure Settings where
  url : Option String
  lane : Option String
  /-- How many deliveries may be unsettled on a channel. -/
  prefetch : UInt16
  /-- The pause before each attempt to reconnect. -/
  reconnectDelay : Duration
  /-- The logical queues to declare and bind. -/
  queues : List LogicalQueue

def Settings.ofConfig (config : Config) : Settings where
  url := config.brokerUrl
  lane := config.lane
  prefetch := config.brokerPrefetch
  reconnectDelay := .ofSeconds config.brokerReconnectSeconds.toNat
  queues := defaultQueues

/-- The connection as callers see it. -/
inductive ConnectionState where
  | disconnected
  | connecting
  | connected
deriving DecidableEq, Repr

/-- A call on the channel of a session. -/
inductive Call where
  | prefetch (count : UInt16)
  | declare (step : Declaration)
  | publish (exchange routingKey : String) (message : Message)
  | consume (queue : String)
  | settle (tag : Nat) (verdict : Verdict)
  | close

/-- The tag a consumer is announced under, `unique` telling it from all others. -/
def consumerTag (queue unique : String) : String := queue ++ "-" ++ unique

/-- How a handler ended. -/
inductive HandlerOutcome where
  | ok
  | failed
  | crashed
deriving DecidableEq, Repr

/-- How a delivery is settled that its handler has not settled: one that could not be handled is
    refused for good. -/
def HandlerOutcome.verdict : HandlerOutcome → Verdict
  | .ok => .ack
  | .failed | .crashed => .nack false

/-- What a handler does with a delivery, one effect after another, to its end. -/
inductive Handler where
  | done (outcome : HandlerOutcome)
  /-- It settles its delivery and goes on with the answer. -/
  | settle (verdict : Verdict) (next : Except Fault Unit → Handler)
  /-- It publishes a message and goes on with the answer. -/
  | publish (publication : Publication) (next : Except Fault Unit → Handler)
  | sleep (span : Duration) (next : Handler)
  /-- It waits until it is let go, and is told whether to fail. -/
  | hold (next : (fail : Bool) → Handler)

/-- A consumer to attach to every session from now on. -/
structure Registration where
  queue : String
  handler : Delivery → Handler

/-- The channel in use: its session, and the count of sessions opened up to it. -/
structure Channel where
  session : SessionId
  generation : Nat
deriving DecidableEq, Repr

/-- Deliveries are numbered in the order they arrived. -/
abbrev DeliveryId := Nat

/-- A delivery and whether it has been settled; all holders of the delivery share the mark. -/
structure Held where
  delivery : Delivery
  settled : Bool

/-- Tasks are numbered in the order they were started. -/
abbrev TaskId := Nat

/-- The state that all tasks share. -/
structure Client where
  settings : Settings
  channel : Option Channel
  state : ConnectionState
  /-- How many sessions have been opened and limited. -/
  generation : Nat
  /-- A session has been installed since creation or the last close. -/
  everConnected : Bool
  reconnecting : Bool
  shutdown : Bool
  /-- The consumers to attach on a recovery, in the order they were registered. -/
  registrations : List Registration
  deliveries : List Held
  /-- Who holds the connect lock, and behind it who waits, first come first. -/
  lock : List TaskId

/-- Who runs a connection attempt. -/
inductive Owner where
  | caller
  | loop
deriving DecidableEq, Repr

/-- What a task does once the call it waits for has been answered. -/
inductive After where
  /-- A new session was limited: count and watch it, then restore or install it. -/
  | limited (owner : Owner) (restore : Bool)
  /-- A declaration on a recovery session; `rest` is still to declare. -/
  | restored (owner : Owner) (channel : Channel) (rest : List Declaration)
  /-- A consumer on a recovery session; `rest` is still to attach. -/
  | attached (owner : Owner) (channel : Channel) (current : Registration)
      (rest : List Registration)
  /-- A session was given up because of `fault`. -/
  | abandoned (owner : Owner) (fault : Fault)
  /-- A declaration that a caller asked for; `rest` is still to declare. -/
  | declared (session : SessionId) (rest : List Declaration)
  /-- A consumer that a caller asked for. -/
  | consumed (session : SessionId) (registration : Registration)
  | closed
  /-- The answer is the caller's. -/
  | passed
  /-- The answer is a handler's. -/
  | handled (delivery : DeliveryId) (next : Except Fault Unit → Handler)

/-- What a caller can ask of the client. -/
inductive Operation where
  | connect
  | declareTopology
  | publish (publication : Publication)
  | consume (registration : Registration)
  | settle (delivery : DeliveryId) (verdict : Verdict)
  | close
  /-- Wait until the connection is seen in this state. -/
  | awaitState (target : ConnectionState)

/-- A task at the point where it waits. -/
inductive Task where
  /-- An operation that has not begun. -/
  | begin (operation : Operation)
  | locking (owner : Owner)
  /-- Waiting for the connector to open a session; the lock is held. -/
  | opening (owner : Owner) (restore : Bool)
  /-- Waiting for the answer to a call. -/
  | calling (session : SessionId) (call : Call) (after : After)
  /-- The reconnect loop, asleep until the clock reads `due`. -/
  | resting (due : Duration)
  /-- Waiting for the session of a channel to be lost. -/
  | watching (channel : Channel)
  /-- Waiting for the next delivery of a consumer. -/
  | streaming (session : SessionId) (registration : Registration)
  /-- A delivery whose handler has not begun. -/
  | invoking (delivery : DeliveryId) (handler : Delivery → Handler)
  /-- A handler asleep until the clock reads `due`. -/
  | sleeping (delivery : DeliveryId) (due : Duration) (next : Handler)
  /-- A handler that waits to be let go. -/
  | holding (delivery : DeliveryId) (next : (fail : Bool) → Handler)
  /-- A handler that has ended; the delivery is still to be judged by its outcome. -/
  | judging (delivery : DeliveryId) (outcome : HandlerOutcome)
  /-- Waiting for the connection to be seen in a state. -/
  | observing (target : ConnectionState)

/-- What a waiting task is resumed with. -/
inductive Signal where
  | turn
  /-- The connect lock is its own now. -/
  | granted
  | opened (result : Except Fault SessionId)
  | answered (result : Except Fault Unit)
  /-- Its time has come. -/
  | elapsed
  | lost
  /-- A delivery arrived; `delivery` is its number. -/
  | arrived (delivery : DeliveryId)
  /-- The stream of deliveries failed or ended. -/
  | streamEnded
  /-- A held handler is let go. -/
  | released (fail : Bool)

/-- How a task ended. -/
inductive Ending where
  /-- An operation with its answer. -/
  | answered (result : Except Fault Unit)
  /-- A wait for a state. -/
  | observed (state : ConnectionState)
  /-- A task nobody waits for. -/
  | quiet

/-- A settle call on a delivery, by whomever. -/
structure Settlement where
  delivery : DeliveryId
  verdict : Verdict
  /-- The session it was passed on to, or the fault it was refused with. -/
  result : Except Fault SessionId

/-- What one step of a task leaves behind. -/
structure Reaction where
  client : Client
  /-- Where the task waits now, or how it ended. -/
  next : Except Ending Task
  started : List Task
  /-- The settle calls it performed, in order. -/
  settlements : List Settlement := []

/-- The reaction with a settle call performed before all others. -/
def Reaction.noting (r : Reaction) (settlement : Settlement) : Reaction :=
  { r with settlements := settlement :: r.settlements }

namespace Client

def new (settings : Settings) : Client where
  settings
  channel := none
  state := .disconnected
  generation := 0
  everConnected := false
  reconnecting := false
  shutdown := false
  registrations := []
  deliveries := []
  lock := []

/-- The lane that names and keys are scoped to. -/
def lane (c : Client) : Option String := Lane.normalize c.settings.lane

def plan (c : Client) : List Declaration := Broker.plan c.lane c.settings.queues

/-- The session of the installed channel, or why there is none. -/
def session (c : Client) : Except Fault SessionId :=
  match c.channel with
  | some channel => .ok channel.session
  | none => .error (if c.everConnected then .disconnected else .notConnected)

/-! ## Steps that end or suspend a task -/

/-- The task waits again. -/
def wait (c : Client) (task : Task) : Reaction := ⟨c, .ok task, [], []⟩

/-- The task has ended. -/
def stop (c : Client) (ending : Ending) : Reaction := ⟨c, .error ending, [], []⟩

/-- The operation has ended with an answer. -/
def answer (c : Client) (result : Except Fault Unit) : Reaction := c.stop (.answered result)

/-- A call is made and its answer waited for. -/
def call (c : Client) (session : SessionId) (call : Call) (after : After) : Reaction :=
  c.wait (.calling session call after)

/-! ## The reconnect loop and connection attempts -/

/-- When a reconnect loop that goes to sleep now wakes up at the earliest: timers do not go off
    early, however long the delay is. (A delay that the clock cannot show the end of is cut to
    decades by the runtime, which is left out.) -/
def wakeUp (c : Client) (now : Duration) : Duration :=
  ⟨now.nanoseconds + c.settings.reconnectDelay.nanoseconds⟩

/-- Starts a reconnect loop unless one is running: the state after it and the new task. -/
def scheduleReconnect (c : Client) (now : Duration) : Client × List Task :=
  if c.reconnecting then (c, [])
  else ({ c with reconnecting := true }, [.resting (c.wakeUp now)])

/-- The reconnect loop ends. -/
def endLoop (c : Client) (now : Duration) : Reaction :=
  let c := { c with reconnecting := false }
  -- a channel lost in the meantime starts the next loop
  if c.channel.isNone && !c.shutdown then
    let (c, started) := c.scheduleReconnect now
    ⟨c, .error .quiet, started, []⟩
  else c.stop .quiet

/-- An attempt has ended: the lock passes on, a caller gets the answer, and the loop ends or goes
    back to sleep. -/
def endAttempt (c : Client) (now : Duration) (owner : Owner) (result : Except Fault Unit) :
    Reaction :=
  let c := { c with lock := c.lock.tail }
  match owner, result with
  | .caller, result => c.answer result
  | .loop, .ok () => c.endLoop now
  | .loop, .error _ => c.wait (.resting (c.wakeUp now))

/-- The attempt begins with the lock in hand, unless a channel is installed already. -/
def attempt (c : Client) (now : Duration) (owner : Owner) : Reaction :=
  if c.channel.isSome then c.endAttempt now owner (.ok ())
  else if c.settings.url.isNone then c.endAttempt now owner (.error .notConfigured)
  else
    match owner with
    | .caller =>
      -- an earlier close is taken back; after an earlier session this is a recovery, as it always
      -- is in the loop
      { c with shutdown := false, state := .connecting }.wait (.opening .caller c.everConnected)
    | .loop => { c with state := .connecting }.wait (.opening .loop true)

/-- Queues up for the connect lock, and goes on at once when it is free. -/
def acquire (c : Client) (now : Duration) (id : TaskId) (owner : Owner) : Reaction :=
  let free := c.lock.isEmpty
  let c := { c with lock := c.lock ++ [id] }
  if free then c.attempt now owner else c.wait (.locking owner)

/-- The new session becomes the channel in use. -/
def install (c : Client) (now : Duration) (owner : Owner) (channel : Channel) : Reaction :=
  { c with channel := some channel, everConnected := true, state := .connected }.endAttempt now
    owner (.ok ())

/-- Attaches the first of the remaining registrations, or installs the session when none
    remains. -/
def attach (c : Client) (now : Duration) (owner : Owner) (channel : Channel) :
    List Registration → Reaction
  | [] => c.install now owner channel
  | current :: rest =>
    c.call channel.session (.consume current.queue) (.attached owner channel current rest)

/-- Makes the first of the remaining declarations, or goes on to the consumers registered by
    now. -/
def restore (c : Client) (now : Duration) (owner : Owner) (channel : Channel) :
    List Declaration → Reaction
  | [] => c.attach now owner channel c.registrations
  | step :: rest => c.call channel.session (.declare step) (.restored owner channel rest)

def abandon (c : Client) (session : SessionId) (owner : Owner) (fault : Fault) : Reaction :=
  c.call session .close (.abandoned owner fault)

def failAttempt (c : Client) (now : Duration) (owner : Owner) (fault : Fault) : Reaction :=
  { c with state := .disconnected }.endAttempt now owner (.error fault)

/-- A session that took the prefetch limit is counted and watched, then restored or installed. -/
def enroll (c : Client) (now : Duration) (owner : Owner) (restoring : Bool) (session : SessionId) :
    Reaction :=
  let channel : Channel := ⟨session, c.generation + 1⟩
  let c := { c with generation := channel.generation }
  let reaction :=
    if restoring then c.restore now owner channel c.plan else c.install now owner channel
  { reaction with started := .watching channel :: reaction.started }

/-- A session was lost. -/
def connectionLost (c : Client) (now : Duration) (channel : Channel) : Reaction :=
  -- only the newest session counts, and none after a close
  if c.shutdown || channel.generation ≠ c.generation then c.stop .quiet
  else
    let kept := c.channel.filter fun current => current.generation ≠ channel.generation
    let (c, started) :=
      { c with channel := kept, state := .disconnected }.scheduleReconnect now
    ⟨c, .error .quiet, started, []⟩

/-! ## Operations -/

/-- Makes the first of the remaining declarations that a caller asked for. -/
def declare (c : Client) (session : SessionId) : List Declaration → Reaction
  | [] => c.answer (.ok ())
  | step :: rest => c.call session (.declare step) (.declared session rest)

/-- The call that publishes, or why there is none. -/
def publishCall (c : Client) (p : Publication) : Except Fault (SessionId × Call) := do
  let session ← c.session
  let body ← p.body.encode.mapError .serialization
  return (session, .publish mainExchange (p.routingKey c.settings.lane) (p.message body))

/-- What becomes of the delivery of a number. Only deliveries have numbers, so a task that holds one
    always finds its delivery. -/
def withHeld (c : Client) (id : DeliveryId) (go : Held → Reaction) : Reaction :=
  match c.deliveries[id]? with
  | some held => go held
  | none => c.stop .quiet

/-- The call that settles a delivery and the state with the delivery marked, or why there is
    none. -/
def settleCall (c : Client) (id : DeliveryId) (held : Held) (verdict : Verdict) :
    Except Fault (Client × SessionId × Call) := do
  -- a tag is known on the session it arrived on only; without one the installed session is asked
  let session ← match held.delivery.session with
    | some session => .ok session
    | none => c.session
  if held.settled then .error (.alreadySettled held.delivery.tag)
  else
    let c := { c with
      deliveries := c.deliveries.modify id fun held => { held with settled := true } }
    return (c, session, .settle held.delivery.tag verdict)

def settle (c : Client) (id : DeliveryId) (verdict : Verdict) : Reaction :=
  c.withHeld id fun held => match c.settleCall id held verdict with
    | .ok (c, session, call) => (c.call session call .passed).noting ⟨id, verdict, .ok session⟩
    | .error fault => (c.answer (.error fault)).noting ⟨id, verdict, .error fault⟩

/-- Closes the client: recoveries stop, registrations go, and the channel is taken out before it is
    closed. -/
def close (c : Client) : Reaction :=
  let channel := c.channel
  let c := { c with shutdown := true, everConnected := false, registrations := [], channel := none }
  match channel with
  | some channel => c.call channel.session .close .closed
  | none => { c with state := .disconnected }.answer (.ok ())

def begin (c : Client) (now : Duration) (id : TaskId) : Operation → Reaction
  | .connect => c.acquire now id .caller
  | .declareTopology => match c.session with
    | .ok session => c.declare session c.plan
    | .error fault => c.answer (.error fault)
  | .publish p => match c.publishCall p with
    | .ok (session, call) => c.call session call .passed
    | .error fault => c.answer (.error fault)
  | .consume registration => match c.session with
    | .ok session => c.call session (.consume registration.queue) (.consumed session registration)
    | .error fault => c.answer (.error fault)
  | .settle delivery verdict => c.settle delivery verdict
  | .close => c.close
  | .awaitState target =>
    if c.state = target then c.stop (.observed target) else c.wait (.observing target)

/-! ## Handlers -/

/-- Runs a handler up to its next wait. -/
def handle (c : Client) (now : Duration) (delivery : DeliveryId) : Handler → Reaction
  | .done outcome => c.wait (.judging delivery outcome)
  | .settle verdict next =>
    c.withHeld delivery fun held => match c.settleCall delivery held verdict with
      | .ok (c, session, call) =>
        (c.call session call (.handled delivery next)).noting ⟨delivery, verdict, .ok session⟩
      | .error fault =>
        (c.handle now delivery (next (.error fault))).noting ⟨delivery, verdict, .error fault⟩
  | .publish p next => match c.publishCall p with
    | .ok (session, call) => c.call session call (.handled delivery next)
    | .error fault => c.handle now delivery (next (.error fault))
  | .sleep span next =>
    c.wait (.sleeping delivery ⟨now.nanoseconds + span.nanoseconds⟩ next)
  | .hold next => c.wait (.holding delivery next)

/-- Hands a delivery to its handler. -/
def invoke (c : Client) (now : Duration) (id : DeliveryId) (handler : Delivery → Handler) :
    Reaction :=
  c.withHeld id fun held => c.handle now id (handler held.delivery)

/-- Settles a delivery by the outcome of its handler. -/
def judge (c : Client) (id : DeliveryId) (outcome : HandlerOutcome) : Reaction :=
  c.withHeld id fun held => match c.settleCall id held outcome.verdict with
    | .ok (c, session, call) =>
      (c.call session call .passed).noting ⟨id, outcome.verdict, .ok session⟩
    | .error fault =>
      -- after a success the mark is looked at first, so that no call is performed in vain
      if outcome = .ok then c.stop .quiet
      else (c.stop .quiet).noting ⟨id, outcome.verdict, .error fault⟩

/-! ## Resuming a task -/

/-- What a task does with the answer to the call it waited for. -/
def proceed (c : Client) (now : Duration) (session : SessionId) (result : Except Fault Unit) :
    After → Reaction
  | .limited owner restoring => match result with
    | .ok () => c.enroll now owner restoring session
    | .error fault => c.abandon session owner fault
  | .restored owner channel rest => match result with
    | .ok () => c.restore now owner channel rest
    | .error fault => c.abandon session owner fault
  | .attached owner channel current rest => match result with
    | .ok () =>
      let reaction := c.attach now owner channel rest
      { reaction with started := .streaming session current :: reaction.started }
    | .error fault => c.abandon session owner fault
  | .abandoned owner fault => c.failAttempt now owner fault
  | .declared session rest => match result with
    | .ok () => c.declare session rest
    | .error fault => c.answer (.error fault)
  | .consumed session registration => match result with
    | .ok () =>
      ⟨{ c with registrations := c.registrations ++ [registration] }, .error (.answered (.ok ())),
        [.streaming session registration], []⟩
    | .error fault => c.answer (.error fault)
  | .closed => { c with state := .disconnected }.answer (.ok ())
  | .passed => c.answer result
  | .handled delivery next => c.handle now delivery (next result)

/-- The code of a task from the point where it waits to the next such point. -/
def resume (c : Client) (now : Duration) (id : TaskId) : Task → Signal → Reaction
  | .begin operation, .turn => c.begin now id operation
  | .locking owner, .granted => c.attempt now owner
  | .opening owner restoring, .opened result => match result with
    | .ok session =>
      c.call session (.prefetch c.settings.prefetch) (.limited owner restoring)
    | .error fault => c.failAttempt now owner fault
  | .calling session _ after, .answered result => c.proceed now session result after
  | .resting _, .elapsed =>
    if c.shutdown then c.endLoop now else c.acquire now id .loop
  | .watching channel, .lost => c.connectionLost now channel
  | .streaming session registration, .arrived delivery =>
    ⟨c, .ok (.streaming session registration), [.invoking delivery registration.handler], []⟩
  | .streaming _ _, .streamEnded => c.stop .quiet
  | .invoking delivery handler, .turn => c.invoke now delivery handler
  | .sleeping delivery _ next, .elapsed => c.handle now delivery next
  | .holding delivery next, .released fail => c.handle now delivery (next fail)
  | .judging delivery outcome, .turn => c.judge delivery outcome
  | .observing target, .turn =>
    if c.state = target then c.stop (.observed target) else c.wait (.observing target)
  -- a signal that the task does not wait for changes nothing
  | task, _ => c.wait task

end Client

end Laneway.Broker
