import Laneway.Routing.Polling

set_option autoImplicit false

/-! # Rehearsing a router

A rehearsal plays a script of steps against one router. The network answers every request at once,
so each fetch is over in the step that began it, and the poll loop moves only when a step moves the
clock or stops it. -/

namespace Laneway.Routing.Rehearsal

/-- One step of a script. -/
inductive Step where
  /-- A caller fetches the table into the router. -/
  | refresh
  /-- A caller fetches the table and looks at it. -/
  | fetchRoutes
  /-- The clock jumps. -/
  | advance (d : Duration)
  | stop
  /-- Asks whether the polling was stopped. -/
  | isStopped
  | snapshot
  /-- Resolves a path of a service. -/
  | resolve (context : Context) (service path : String) (lane : Option String)
  /-- Sends a request to a service. -/
  | fetch (context : Context) (service path : String) (options : Options) (lane : Option String)
  /-- Sends a request through the client of a service. -/
  | client (context : Context) (client : Client) (method path : String)
  | nop

inductive Result where
  | ok
  | flag (b : Bool)
  | topology (topology : Topology)
  | url (url : String)
  | response (response : Http.Response)
  | fault (fault : FetchFault)

/-- The stage of a rehearsal. -/
structure Stage where
  registry : Registry
  network : Http.Network
  polling : Polling
  /-- The requests that other hosts have seen in this step. -/
  seen : List Http.Request

namespace Stage

def move (s : Stage) (m : Polling.Move) : Stage :=
  match s.polling.step m with
  | some (polling, _) => { s with polling }
  | none => s

/-- Notes a request that is sent. -/
def note (s : Stage) (draft : Http.Draft) : Stage :=
  { s with seen := s.seen ++ draft.seen s.network }

/-- Lets the newest fetch come to its end. -/
def settle (s : Stage) : Stage :=
  match s.polling.fetches.getLast? with
  | none => s
  | some (id, _) =>
    let draft := s.registry.request
    ((s.note draft).move (.answer id (draft.send s.network))).move (.complete id)

/-- Lets the loop run until it waits: it notices a stop before anything else. -/
def runLoop (s : Stage) : Stage :=
  let s := if s.polling.stopped then s.move .finish else s
  (s.move .tick).settle

/-- The router after its first fetch. -/
def start (registry : Registry) (setting : Duration) (network : Http.Network) : Stage :=
  let s : Stage := ⟨registry, network, .new registry setting .start, []⟩
  (s.move .refresh).settle.move .begin

/-- A router over a table that never changes. -/
def fixed (registry : Registry) (topology : Topology) (network : Http.Network) : Stage :=
  ⟨registry, network, .fixed topology .start, []⟩

def exchange (s : Stage) (draft : Http.Draft) : Stage × Result :=
  (s.note draft, match draft.send s.network with
    | .ok response => .response response
    | .error failure => .fault (.http failure))

def play (s : Stage) : Step → Stage × Result
  | .refresh =>
    match s.polling.registry with
    | none => (s, .flag false)
    | some registry =>
      let adopted := (Polling.adopt s.polling.topology (registry.request.send s.network)).2
      ((s.move .refresh).settle, .flag adopted)
  | .fetchRoutes =>
    (s.note s.registry.request, match s.registry.fetch s.network with
      | .ok topology => .topology topology
      | .error fault => .fault fault)
  | .advance d => ((s.move (.advance d)).runLoop, .ok)
  | .stop =>
    let s := (s.move .stop).runLoop
    (s, .flag s.polling.stopped)
  | .isStopped => (s, .flag s.polling.stopped)
  | .snapshot => (s, .topology s.polling.topology)
  | .resolve context service path lane =>
    (s, .url (s.polling.topology.url context service path lane))
  | .fetch context service path options lane =>
    s.exchange (s.polling.topology.fetch context service path options lane)
  | .client context client method path =>
    s.exchange (client.request s.polling.topology context method path)
  | .nop => (s, .ok)

end Stage

/-- Plays a script: the result of each step, with the requests that other hosts saw in it. -/
def play : Stage → List Step → List (Result × List Http.Request)
  | _, [] => []
  | s, step :: rest =>
    let (s, result) := { s with seen := [] }.play step
    (result, s.seen) :: play s rest

end Laneway.Routing.Rehearsal
