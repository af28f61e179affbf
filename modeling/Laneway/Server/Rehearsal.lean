import Laneway.Binding.Rehearsal
import Laneway.Server.Handler
import Laneway.Webhook.Tracker

set_option autoImplicit false

/-! # Rehearsing the server

A rehearsal plays a script of requests against one server over a store in memory. The network
answers at once, so what a request sets off is over within its step: a relayed event looks up the
lane of its bot, and is then sent. -/

namespace Laneway.Server.Rehearsal

/-- One step of a script. -/
inductive Step where
  | request (incoming : Incoming)
  /-- An event is relayed, and its outcome is waited for. -/
  | deliver (event : Webhook.Event)
  | binding (step : Binding.Rehearsal.Step)
  | advance (d : Duration)
  /-- Running relays are waited for, at most so long. -/
  | drain (timeout : Duration)
  | nop

inductive Result where
  | reply (reply : Reply)
  | ok
  | fault (fault : Webhook.RelayFault)
  | binding (result : Binding.Rehearsal.Result)
  /-- A drain is over: whether no relay was running while it waited. -/
  | drained (complete : Bool)

structure Report where
  result : Result
  /-- The requests that other hosts saw in it. -/
  seen : List Http.Request
  /-- How many lookups have begun so far. -/
  queries : Nat
  /-- How many relays are running. -/
  inFlight : Nat

structure Stage where
  app : App
  relay : Webhook.Relay
  network : Http.Network
  fresh : Fresh
  bindings : Binding.Rehearsal.Stage
  tracker : Webhook.Tracker
  /-- The requests that other hosts have seen in this step. -/
  seen : List Http.Request

namespace Stage

/-- Makes a move of the tracker, if it is possible. -/
def track (s : Stage) (move : Webhook.Tracker.Move) : Stage × Webhook.Tracker.Event :=
  match s.tracker.step move with
  | some (tracker, event) => ({ s with tracker }, event)
  | none => (s, .silent)

/-- Carries a delivery on to its outcome. There is none when a call for a lane fails, for then the
    delivery crashes. -/
def carryOut (s : Stage) : Webhook.Delivery → Stage × Option (Except Webhook.RelayFault Unit)
  | .call key next =>
    let (bindings, result) := s.bindings.play (.resolve key)
    match result.lane? with
    | some lane => carryOut { s with bindings } (next lane)
    | none => ({ s with bindings }, none)
  | .exchange make next =>
    let draft := make s.app.topology s.fresh.traceId
    carryOut { s with seen := s.seen ++ draft.seen s.network } (next (draft.send s.network))
  | .done result => (s, some result)

def deliver (s : Stage) (event : Webhook.Event) :
    Stage × Option (Except Webhook.RelayFault Unit) := s.carryOut (s.relay.deliver event)

/-- Brings about what a request sets off. -/
def perform (s : Stage) : Effect → Stage
  | .relay event =>
    match s.track .forward with
    | (s, .forwarded id) => ((s.deliver event).1.track (.finish id)).1
    | (s, _) => s
  | .forget key => { s with bindings := (s.bindings.play (.invalidate key)).1 }
  | .forgetAll => { s with bindings := (s.bindings.play .clear).1 }

/-- Sets the clock on at once. -/
def advance (s : Stage) (d : Duration) : Stage :=
  let (s, _) := s.track (.advance d)
  { s with bindings := (s.bindings.play (.jump d)).1 }

def drain (s : Stage) (timeout : Duration) : Stage × Bool :=
  match s.track (.drain timeout) with
  | (s, .draining id) =>
    match s.track (.wake id) with
    | (s, .drained _ complete) => (s, complete)
    | (s, _) =>
      match (s.advance timeout).track (.wake id) with
      | (s, .drained _ complete) => (s, complete)
      | (s, _) => (s, false)
  | (s, _) => (s, false)

def play (s : Stage) : Step → Stage × Result
  | .request incoming =>
    match s.app.handle s.fresh incoming with
    | (reply, some effect) => (s.perform effect, .reply reply)
    | (reply, none) => (s, .reply reply)
  | .deliver event =>
    match s.deliver event with
    | (s, some (.ok ())) => (s, .ok)
    | (s, some (.error fault)) => (s, .fault fault)
    | (s, none) => (s, .binding (.outcome .outOfRange))
  | .binding step =>
    let (bindings, result) := s.bindings.play step
    ({ s with bindings }, .binding result)
  | .advance d => (s.advance d, .ok)
  | .drain timeout =>
    let (s, complete) := s.drain timeout
    (s, .drained complete)
  | .nop => (s, .ok)

end Stage

def play : Stage → List Step → List Report
  | _, [] => []
  | s, step :: rest =>
    let (s, result) := { s with seen := [] }.play step
    ⟨result, s.seen, s.bindings.queries, s.tracker.inFlight⟩ :: play s rest

end Laneway.Server.Rehearsal
