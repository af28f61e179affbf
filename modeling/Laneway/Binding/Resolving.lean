import Laneway.Binding.Resolver

set_option autoImplicit false

/-! # A resolver in a changing world

A `Resolving` is a resolver together with the store as it is now and the clock. Calls, the reads and
ends of lookups, invalidations, changes of the store and the passing of time are its moves, and
every interleaving of them is a sequence of steps. -/

namespace Laneway.Binding

/-- A resolver, the store it asks, and the clock. -/
structure Resolving where
  resolver : Resolver
  store : Store
  now : Instant

/-- A move of a call or of the world. -/
inductive Resolving.Move where
  | resolve (key : Key)
  | read (id : LookupId)
  | complete (id : LookupId)
  | invalidate (key : Key)
  | clear
  /-- The store answers differently from now on. -/
  | change (store : Store)
  | advance (d : Duration)

/-- What a move brings to light. -/
inductive Resolving.Event where
  /-- A call began, and what came of it at once. -/
  | called (key : Key) (call : Call)
  /-- A lookup of a key read the store. -/
  | read (id : LookupId) (lookup : Lookup)
  /-- A lookup ended for the call that waits for it. -/
  | ended (id : LookupId) (outcome : Outcome)
  | silent

namespace Resolving

def new (lifetime : Duration) (store : Store) : Resolving := ⟨.new lifetime, store, .start⟩

/-- One move, if it is possible. -/
def step (s : Resolving) : Move → Option (Resolving × Event)
  | .resolve key =>
    let (resolver, call) := s.resolver.resolve s.now key
    some ({ s with resolver }, .called key call)
  | .read id =>
    (s.resolver.read s.store id).map fun (resolver, lookup) =>
      ({ s with resolver }, .read id lookup)
  | .complete id =>
    (s.resolver.complete s.now id).map fun (resolver, outcome) =>
      ({ s with resolver }, .ended id outcome)
  | .invalidate key => some ({ s with resolver := s.resolver.invalidate key }, .silent)
  | .clear => some ({ s with resolver := s.resolver.clear }, .silent)
  | .change store => some ({ s with store }, .silent)
  | .advance d => (s.now.after? d).map fun now => ({ s with now }, .silent)

end Resolving

end Laneway.Binding
