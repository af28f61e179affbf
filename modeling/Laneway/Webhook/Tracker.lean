import Laneway.Instant

set_option autoImplicit false

/-! # Relays that run, and waiting for them

Relays run in the background. A tracker counts those that have not finished, and a drain waits,
for a bounded time, until there are none: it is told when the last one finishes, and what begins
after that no longer matters to it. -/

namespace Laneway.Webhook

/-- Relays are numbered in the order they were begun. -/
abbrev RelayId := Nat

/-- Drains are numbered in the order they were begun. -/
abbrev DrainId := Nat

/-- A drain that has not returned. -/
structure Drain where
  /-- The moment from which on it gives up. No timer goes off early, so a drain whose deadline the
      clock cannot show (`none`) does not give up. (The runtime lets it give up after decades, which
      is left out.) -/
  deadline : Option Instant
  /-- Whether no relay was running at some moment since it began. -/
  reached : Bool
deriving DecidableEq

/-- The relays that run and the drains that wait. -/
structure Tracker where
  /-- The relays that have not finished. -/
  running : List RelayId
  /-- How many relays were begun, which is also the number of the next one. -/
  begun : RelayId
  drains : List (DrainId × Drain)
  nextDrain : DrainId
  now : Instant

/-- A move of a tracker. -/
inductive Tracker.Move where
  | forward
  | finish (id : RelayId)
  | drain (timeout : Duration)
  | wake (id : DrainId)
  | advance (d : Duration)

/-- What a move brings to light. -/
inductive Tracker.Event where
  /-- A relay of this number begins. -/
  | forwarded (id : RelayId)
  /-- A drain of this number begins. -/
  | draining (id : DrainId)
  /-- A drain returns: whether no relay was running while it waited. -/
  | drained (id : DrainId) (complete : Bool)
  | silent
deriving DecidableEq

namespace Tracker

/-- A tracker at the start of the clock. -/
def new (now : Instant) : Tracker := ⟨[], 0, [], 0, now⟩

def inFlight (t : Tracker) : Nat := t.running.length

/-- Tells every drain that waits that no relay is running, if that is so. -/
def tell (t : Tracker) : Tracker :=
  if t.running.isEmpty then
    { t with drains := t.drains.map fun d => (d.1, { d.2 with reached := true }) }
  else t

/-- Whether a moment has come. -/
def isDue (now : Instant) : Option Instant → Bool
  | some moment => moment ≤ now
  | none => false

/-- One move, if it is possible. -/
def step (t : Tracker) : Move → Option (Tracker × Event)
  | .forward =>
    some ({ t with running := t.running ++ [t.begun], begun := t.begun + 1 }, .forwarded t.begun)
  | .finish id =>
    if id ∈ t.running then some (({ t with running := t.running.erase id } : Tracker).tell, .silent)
    else none
  | .drain timeout =>
    let drain : Drain := ⟨t.now.after? timeout, t.running.isEmpty⟩
    some ({ t with
        drains := t.drains ++ [(t.nextDrain, drain)], nextDrain := t.nextDrain + 1 },
      .draining t.nextDrain)
  | .wake id =>
    match t.drains.lookup id with
    | some drain =>
      let rest := { t with drains := t.drains.filter fun d => d.1 ≠ id }
      -- when its time is over as well, the relays count
      if drain.reached then some (rest, .drained id true)
      else if isDue t.now drain.deadline then some (rest, .drained id false)
      else none
    | none => none
  | .advance d => (t.now.after? d).map fun now => ({ t with now }, .silent)

end Tracker

end Laneway.Webhook
