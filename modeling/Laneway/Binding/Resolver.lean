import Laneway.Binding.Cache

set_option autoImplicit false

/-! # Resolving bindings concurrently

A call that resolves a key either finds an answer in the cache or begins a lookup, and any number
of lookups may be under way, also for one key. A lookup reads the store at some time after it began
and ends later still; only then is its answer kept. A `Resolver` is the cache with the lookups under
way, and its operations are the points between which calls take turns. -/

namespace Laneway.Binding

/-- The number of a lookup. -/
abbrev LookupId := Nat

/-- A lookup under way. -/
structure Lookup where
  key : Key
  /-- What the store answered, once it has been read. -/
  answer : Option Answer

/-- The cache and the lookups under way. -/
structure Resolver where
  cache : Cache
  /-- The lookups under way, in the order they began. -/
  lookups : List (LookupId × Lookup)
  /-- How many lookups have begun, which is also the number of the next one. -/
  queries : LookupId

/-- What comes of a call at once. -/
inductive Call where
  | answered (lane : Option String)
  | waiting (id : LookupId)
deriving DecidableEq

/-- How a lookup ends for the call that waits for it. -/
inductive Outcome where
  /-- The call returns the lane bound, or none: there is no binding, or the lookup failed. -/
  | lane (lane : Option String)
  /-- The call fails, for the clock cannot show the end of the answer's lifetime. -/
  | outOfRange
deriving DecidableEq

namespace Resolver

def new (lifetime : Duration) : Resolver := ⟨.new lifetime, [], 0⟩

/-- A call begins. -/
def resolve (r : Resolver) (now : Instant) (key : Key) : Resolver × Call :=
  match r.cache.answer? now key with
  | some lane => (r, .answered lane)
  | none =>
    ({ r with
        lookups := r.lookups ++ [(r.queries, ⟨key, none⟩)]
        queries := r.queries + 1 },
      .waiting r.queries)

/-- A lookup reads the store, once: its key and what the store answers. -/
def read (r : Resolver) (store : Store) (id : LookupId) : Option (Resolver × Lookup) :=
  match r.lookups.lookup id with
  | some ⟨key, none⟩ =>
    let lookup : Lookup := ⟨key, some (store key)⟩
    some ({ r with lookups := r.lookups.map fun l => if l.1 = id then (id, lookup) else l }, lookup)
  | _ => none

/-- A lookup that has read the store ends now. -/
def complete (r : Resolver) (now : Instant) (id : LookupId) : Option (Resolver × Outcome) :=
  match r.lookups.lookup id with
  | some ⟨key, some answer⟩ =>
    let r := { r with lookups := r.lookups.filter fun l => l.1 ≠ id }
    match answer with
    -- a failed lookup changes no entry
    | .error _ => some (r, .lane none)
    | .ok lane =>
      match r.cache.keep? now key lane with
      | some cache => some ({ r with cache }, .lane lane)
      | none => some (r, .outOfRange)
  | _ => none

/-- Drops the answer kept for a key. Lookups under way go on. -/
def invalidate (r : Resolver) (key : Key) : Resolver :=
  { r with cache := r.cache.invalidate key }

/-- Drops every answer. Lookups under way go on. -/
def clear (r : Resolver) : Resolver := { r with cache := r.cache.clear }

end Resolver

end Laneway.Binding
