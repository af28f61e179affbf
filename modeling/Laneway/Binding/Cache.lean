import Laneway.Binding.Store
import Laneway.Entries
import Laneway.Instant

set_option autoImplicit false

/-! # Looked-up bindings and how long they hold

A cache entry is the answer of one successful lookup, the negative answer included, and holds until
its lifetime is over, counted from the end of the lookup. Entries are replaced and dropped as a
whole, each key on its own. -/

namespace Laneway.Binding

/-- The answer of a lookup. -/
structure Entry where
  lane : Option String
  /-- The moment from which on it no longer holds. -/
  expires : Instant
deriving DecidableEq

/-- The answers that are kept. -/
structure Cache where
  /-- How long an answer holds. -/
  lifetime : Duration
  entries : List (Key × Entry)

namespace Cache

def defaultLifetime : Duration := .ofSeconds 30

def new (lifetime : Duration) : Cache := ⟨lifetime, []⟩

/-- The entry of a key, whether it still holds or not. -/
def get? (cache : Cache) (key : Key) : Option Entry := cache.entries.lookup key

/-- The answer that holds for a key now, if there is one. -/
def answer? (cache : Cache) (now : Instant) (key : Key) : Option (Option String) :=
  match cache.get? key with
  | some entry => if now < entry.expires then some entry.lane else none
  | none => none

def invalidate (cache : Cache) (key : Key) : Cache :=
  { cache with entries := cache.entries.filter fun entry => entry.1 ≠ key }

def clear (cache : Cache) : Cache := { cache with entries := [] }

def insert (cache : Cache) (key : Key) (entry : Entry) : Cache :=
  { cache with entries := (key, entry) :: (cache.invalidate key).entries }

/-- Keeps the answer of a lookup that ended now. There is no such cache when the clock cannot show
    the end of the answer's lifetime. -/
def keep? (cache : Cache) (now : Instant) (key : Key) (lane : Option String) : Option Cache :=
  (now.after? cache.lifetime).map fun expires => cache.insert key ⟨lane, expires⟩

/-! ## What each operation does to the entries -/

@[simp] theorem get?_new (lifetime : Duration) (key : Key) : (new lifetime).get? key = none := rfl

@[simp] theorem get?_clear (cache : Cache) (key : Key) : cache.clear.get? key = none := rfl

theorem get?_invalidate (cache : Cache) (key other : Key) :
    (cache.invalidate key).get? other = if other = key then none else cache.get? other :=
  lookup_filter_ne cache.entries key other

theorem get?_insert (cache : Cache) (key other : Key) (entry : Entry) :
    (cache.insert key entry).get? other = if other = key then some entry else cache.get? other := by
  show ((key, entry) :: (cache.invalidate key).entries).lookup other = _
  rw [List.lookup_cons]
  by_cases h : other = key
  · simp [h]
  · have : (other == key) = false := by simpa using h
    rw [this, if_neg h]
    show (cache.invalidate key).get? other = cache.get? other
    rw [get?_invalidate, if_neg h]

end Cache

end Laneway.Binding
