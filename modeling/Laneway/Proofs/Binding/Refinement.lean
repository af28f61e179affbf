import Laneway.Proofs.Binding.Record

set_option autoImplicit false

/-! # When the cache refines its history

A lookup that has read the store is complete once it ends, whatever becomes of its call. The cache is
meant to stand for the complete lookups since the last drop: while one of them is within its
lifetime a call does not ask the store, and returns what the latest has read. It does so as long as
the clock can show the end of the latest one's lifetime. What a lookup has read that ends later is
lost: its call fails, and nothing is kept of it. -/

namespace Laneway.Binding

namespace Resolving

/-! ## Complete lookups -/

instance (f : Finding) (lifetime : Duration) (now : Instant) : Decidable (f.Holds lifetime now) :=
  inferInstanceAs (Decidable (now.nanoseconds < f.ended.nanoseconds + lifetime.nanoseconds))

variable {lifetime : Duration} {store : Store} {history : List Moment} {s s' : Resolving}
  {key : Key}

/-- A bot that is bound to another lane between two lookups of its binding. -/
def moved : Key := ⟨.bot, "moved"⟩

end Resolving

end Laneway.Binding
