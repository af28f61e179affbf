import Laneway.Binding.Resolving

set_option autoImplicit false

/-! # Rehearsing a resolver

A rehearsal plays a script of steps against one resolver over a store in memory that answers after
a latency of its own. Lookups end at their own moments, in the order in which they are due, while a
step lets time pass: because it says so, or because it waits for a lookup. Time passes by timers, and
these reach no further than `2 ^ 64` milliseconds; only a jump sets the clock without them. -/

namespace Laneway.Binding.Rehearsal

inductive Step where
  | bind (key : Key) (lane : String)
  | unbind (key : Key)
  /-- Makes every lookup fail, or none any more. -/
  | outage (fault : Option Fault)
  /-- Sets how long the store takes to answer. -/
  | latency (d : Duration)
  | queries
  | resolve (key : Key)
  /-- Resolves several keys at once and waits for all. -/
  | resolveMany (keys : List Key)
  /-- Resolves a key without waiting for it. -/
  | start (name : String) (key : Key)
  | join (name : String)
  | invalidate (key : Key)
  | clear
  /-- Waits for so long. -/
  | advance (d : Duration)
  /-- Sets the clock on at once. -/
  | jump (d : Duration)

/-- What a step answers. -/
inductive Result where
  | ok
  | started
  | count (n : Nat)
  | outcome (outcome : Outcome)
  | outcomes (outcomes : List Outcome)
  /-- There is no such call. -/
  | unknown

/-- The lane that a call has returned, if it has returned any. -/
def Result.lane? : Result → Option (Option String)
  | .outcome (.lane lane) => some lane
  | _ => none

/-- The last moment that a timer can be set for. -/
def lastTick : Instant := ⟨18446744073709551613 * 1000000, by decide⟩

/-- When a timer goes off that is set now: at its moment, or at the last one that timers reach. -/
def goesOff (now moment : Instant) : Instant :=
  if moment ≤ lastTick then moment else now.later lastTick

structure Stage where
  table : Table
  latency : Duration
  resolving : Resolving
  /-- When each lookup under way will end. -/
  due : List (LookupId × Instant)
  /-- How each lookup ended. -/
  ended : List (LookupId × Outcome)
  /-- The calls that were started, the newest first. -/
  calls : List (String × Call)

namespace Stage

def new (lifetime : Duration) (table : Table) : Stage :=
  ⟨table, ⟨0⟩, .new lifetime table.store, [], [], []⟩

def queries (s : Stage) : Nat := s.resolving.resolver.queries

/-- Makes a move, if it is possible, and notes the end of a lookup. -/
def move (s : Stage) (m : Resolving.Move) : Stage :=
  match s.resolving.step m with
  | some (resolving, .ended id outcome) =>
    { s with resolving, due := s.due.filter fun d => d.1 ≠ id, ended := (id, outcome) :: s.ended }
  | some (resolving, _) => { s with resolving }
  | none => s

/-- When a timer goes off that is set now to wait for so long. -/
def timer (s : Stage) (d : Duration) : Instant :=
  goesOff s.resolving.now ((s.resolving.now.after? d).getD s.resolving.now)

/-- Changes the bindings in the store. -/
def write (s : Stage) (table : Table) : Stage := { s.move (.change table.store) with table }

/-- Moves the clock on to a moment. -/
def moveClock (s : Stage) (moment : Instant) : Stage :=
  s.move (.advance ⟨moment.nanoseconds - s.resolving.now.nanoseconds⟩)

/-- Begins a call. The store is read as its lookup begins; without latency it answers at once. -/
def call (s : Stage) (key : Key) : Stage × Call :=
  match s.resolving.step (.resolve key) with
  | some (resolving, .called _ (.waiting id)) =>
    let s := { s with resolving }.move (.read id)
    if s.latency.nanoseconds = 0 then (s.move (.complete id), .waiting id)
    else
      ({ s with due := s.due ++ [(id, s.timer s.latency)] }, .waiting id)
  | some (resolving, .called _ call) => ({ s with resolving }, call)
  | _ => (s, .answered none)

def callAll (s : Stage) : List Key → Stage × List Call
  | [] => (s, [])
  | key :: rest =>
    let (s, call) := s.call key
    let (s, calls) := s.callAll rest
    (s, call :: calls)

/-- Lets time pass until a moment; every lookup due by then ends at its own time. -/
def runUntil (s : Stage) (moment : Instant) : Stage :=
  let due := (s.due.filter fun d => d.2 ≤ moment).mergeSort fun a b => a.2 ≤ b.2
  (due.foldl (fun s d => (s.moveClock d.2).move (.complete d.1)) s).moveClock moment

def await (s : Stage) : Call → Stage × Outcome
  | .answered lane => (s, .lane lane)
  | .waiting id =>
    let s := match s.due.lookup id with
      | some moment => s.runUntil moment
      | none => s
    (s, (s.ended.lookup id).getD .outOfRange)

def awaitAll (s : Stage) : List Call → Stage × List Outcome
  | [] => (s, [])
  | call :: rest =>
    let (s, outcome) := s.await call
    let (s, outcomes) := s.awaitAll rest
    (s, outcome :: outcomes)

def play (s : Stage) : Step → Stage × Result
  | .bind key lane => (s.write (s.table.bind key lane), .ok)
  | .unbind key => (s.write (s.table.unbind key), .ok)
  | .outage fault => (s.write { s.table with outage := fault }, .ok)
  | .latency d => ({ s with latency := d }, .ok)
  | .queries => (s, .count s.queries)
  | .resolve key =>
    let (s, call) := s.call key
    let (s, outcome) := s.await call
    (s, .outcome outcome)
  | .resolveMany keys =>
    let (s, calls) := s.callAll keys
    let (s, outcomes) := s.awaitAll calls
    (s, .outcomes outcomes)
  | .start name key =>
    let (s, call) := s.call key
    ({ s with calls := (name, call) :: s.calls }, .started)
  | .join name =>
    match s.calls.lookup name with
    | some call =>
      let (s, outcome) := s.await call
      (s, .outcome outcome)
    | none => (s, .unknown)
  | .invalidate key => (s.move (.invalidate key), .ok)
  | .clear => (s.move .clear, .ok)
  | .advance d => (s.runUntil (s.timer d), .ok)
  | .jump d => (s.move (.advance d), .ok)

end Stage

/-- Plays a script: the result of each step, with the number of lookups begun so far. -/
def play : Stage → List Step → List (Result × Nat)
  | _, [] => []
  | s, step :: rest =>
    let (s, result) := s.play step
    (result, s.queries) :: play s rest

end Laneway.Binding.Rehearsal
