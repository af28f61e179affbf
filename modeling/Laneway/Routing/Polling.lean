import Laneway.Instant
import Laneway.Routing.Registry
import Laneway.Routing.Target

set_option autoImplicit false

/-! # Keeping the table of services up to date

A router holds the table that the registry served last. It is replaced as a whole whenever a fetch
succeeds, and stays when a fetch fails. Fetches are begun by callers and by a poll loop; each is
under way from the moment its request is sent until its answer is taken in, and any number of them
may be. A `Polling` is the router with its loop and the fetches under way; `Polling.step` makes one
move of the loop, a caller, the registry or the clock. -/

namespace Laneway.Routing

/-- Why the table could not be fetched. -/
inductive FetchFault where
  /-- There was no usable answer. -/
  | http (failure : Http.Failure)
  /-- The registry answered with a status that does not tell success. -/
  | status (code : Nat)
deriving DecidableEq

/-- The fault in words; the wording of a failed exchange is not part of it. -/
def FetchFault.message : FetchFault → Option String
  | .http _ => none
  | .status code => some ("Registry responded " ++ toString code)

namespace Registry

def request (registry : Registry) : Http.Draft := Http.Draft.new "GET" registry.routesUrl

/-- The table in an answer. -/
def taken (answer : Except Http.Failure Http.Response) : Except FetchFault Topology :=
  match answer with
  | .error failure => .error (.http failure)
  | .ok response =>
    if !response.isSuccess then .error (.status response.status)
    else match Topology.read response.body with
      | .ok topology => .ok topology
      | .error _ => .error (.http .undecodable)

def fetch (registry : Registry) (network : Http.Network) : Except FetchFault Topology :=
  taken (registry.request.send network)

end Registry

/-! ## The poll loop -/

def defaultPollInterval : Duration := .ofSeconds 30

/-- The time between polls for a setting, where zero stands for the default. -/
def pollInterval (setting : Duration) : Duration :=
  if setting.nanoseconds = 0 then defaultPollInterval else setting

/-- Who is waiting for a fetch. -/
inductive Origin where
  | caller
  | loop
deriving DecidableEq

/-- A fetch under way. -/
structure Fetch where
  origin : Origin
  /-- What came of its request, once that is decided. -/
  answer : Option (Except Http.Failure Http.Response)

/-- What the poll loop is doing. -/
inductive Loop where
  /-- It begins when the first fetch is over. -/
  | unstarted
  /-- It waits for the moment `due`. -/
  | waiting (due : Instant)
  /-- It waits for its fetch; `next` is when the one after is due. -/
  | fetching (next : Instant)
  /-- It failed: the clock cannot show when it is due. -/
  | failed
  | ended
deriving DecidableEq

/-- How late a tick may be without putting off the ticks after it. -/
def tickTolerance : Duration := .ofMilliseconds 5

/-- How far off a tick is put whose time the clock cannot show: thirty years. -/
def farAhead : Duration := .ofSeconds (30 * 365 * 86400)

/-- When the tick after one is due: an interval after the tick was due, or after now when it came
    too late. Only the ticks of a loop that is on time are put within the range of the clock. -/
def nextTick? (due now : Instant) (interval : Duration) : Option Instant :=
  (due.after? tickTolerance).bind fun tolerated =>
    if tolerated < now then now.after? interval
    else (due.after? interval).or (now.after? farAhead)

/-! ## The router and what is under way -/

/-- The number of a fetch. -/
abbrev FetchId := Nat

/-- A router with its loop and the fetches under way. -/
structure Polling where
  /-- Where the table comes from; a router without registry keeps the one it has. -/
  registry : Option Registry
  interval : Duration
  /-- The table of services that requests are resolved with. -/
  topology : Topology
  stopped : Bool
  loop : Loop
  /-- The fetches under way, in the order they were begun. -/
  fetches : List (FetchId × Fetch)
  nextFetch : FetchId
  now : Instant

/-- A move of the router or of the world around it. -/
inductive Polling.Move where
  | begin
  | refresh
  /-- The loop begins the fetch that is due. -/
  | tick
  /-- What comes of the request of a fetch is decided. -/
  | answer (id : FetchId) (answer : Except Http.Failure Http.Response)
  /-- The answer of a fetch is taken in. -/
  | complete (id : FetchId)
  /-- A caller stops the polling. -/
  | stop
  /-- The loop notices that it was stopped. -/
  | finish
  | advance (d : Duration)

/-- What a move brings to light. -/
inductive Polling.Event where
  /-- A fetch begins. -/
  | began (id : FetchId)
  /-- A fetch is over, and whoever waits for it is told whether its table has replaced the one
      before. -/
  | refreshed (id : FetchId) (replaced : Bool)
  /-- There is no registry to ask, so a caller is told at once that nothing was replaced. -/
  | refused
  | silent
deriving DecidableEq

namespace Polling

/-- A router that polls a registry, before its first fetch. -/
def new (registry : Registry) (setting : Duration) (now : Instant) : Polling where
  registry := some registry
  interval := pollInterval setting
  topology := ∅
  stopped := false
  loop := .unstarted
  fetches := []
  nextFetch := 0
  now := now

/-- A router over a table that never changes. -/
def fixed (topology : Topology) (now : Instant) : Polling where
  registry := none
  interval := defaultPollInterval
  topology := topology
  stopped := false
  loop := .ended
  fetches := []
  nextFetch := 0
  now := now

def fetch (p : Polling) (origin : Origin) : Polling :=
  { p with fetches := p.fetches ++ [(p.nextFetch, ⟨origin, none⟩)], nextFetch := p.nextFetch + 1 }

/-- The table after the answer of a fetch was taken in, and whether it is that of the answer. -/
def adopt (topology : Topology) (answer : Except Http.Failure Http.Response) : Topology × Bool :=
  match Registry.taken answer with
  | .ok served => (served, true)
  | .error _ => (topology, false)

/-- Where the loop goes on when its fetch is complete. -/
def Loop.resume : Loop → Loop
  | .fetching next => .waiting next
  | loop => loop

/-- One move, if it is possible. -/
def step (p : Polling) : Move → Option (Polling × Event)
  | .begin =>
    match p.loop with
    -- an interval passes before the first fetch
    | .unstarted => some ({ p with
        loop := match p.now.after? p.interval with
          | some due => .waiting due
          | none => .failed }, .silent)
    | _ => none
  | .refresh =>
    if p.registry.isSome then some (p.fetch .caller, .began p.nextFetch) else some (p, .refused)
  | .tick =>
    match p.loop with
    | .waiting due =>
      -- also after a stop: which of the two the loop notices first is open
      if due ≤ p.now then
        match nextTick? due p.now p.interval with
        | some next => some ({ p.fetch .loop with loop := .fetching next }, .began p.nextFetch)
        | none => some ({ p with loop := .failed }, .silent)
      else none
    | _ => none
  | .answer id answer =>
    match p.fetches.lookup id with
    | some ⟨origin, none⟩ =>
      some ({ p with fetches := p.fetches.map fun f =>
        if f.1 = id then (id, ⟨origin, some answer⟩) else f }, .silent)
    | _ => none
  | .complete id =>
    match p.fetches.lookup id with
    | some ⟨origin, some answer⟩ =>
      some ({ p with
        topology := (adopt p.topology answer).1
        loop := if origin = .loop then Loop.resume p.loop else p.loop
        fetches := p.fetches.filter fun f => f.1 ≠ id },
        .refreshed id (adopt p.topology answer).2)
    | _ => none
  | .stop => some ({ p with stopped := true }, .silent)
  | .finish =>
    match p.loop with
    | .waiting _ => if p.stopped then some ({ p with loop := .ended }, .silent) else none
    | _ => none
  | .advance d => (p.now.after? d).map fun now => ({ p with now }, .silent)

/-- A failed fetch keeps the table. -/
theorem adopt_of_error {topology : Topology} {answer : Except Http.Failure Http.Response}
    {fault : FetchFault} (h : Registry.taken answer = .error fault) :
    adopt topology answer = (topology, false) := by
  simp [adopt, h]

/-- A successful fetch replaces the table as a whole. -/
theorem adopt_of_ok {topology served : Topology} {answer : Except Http.Failure Http.Response}
    (h : Registry.taken answer = .ok served) : adopt topology answer = (served, true) := by
  simp [adopt, h]

end Polling

end Laneway.Routing
