set_option autoImplicit false

/-! # Durations

A duration is a whole number of nanoseconds. Settings are given in seconds, timers run in
milliseconds, and both are whole numbers of nanoseconds. -/

namespace Laneway

/-- A span of time. -/
structure Duration where
  nanoseconds : Nat
deriving DecidableEq, Repr

namespace Duration

def ofSeconds (n : Nat) : Duration := ⟨n * 1000000000⟩

def ofMilliseconds (n : Nat) : Duration := ⟨n * 1000000⟩

def ofMicroseconds (n : Nat) : Duration := ⟨n * 1000⟩

def milliseconds (d : Duration) : Nat := d.nanoseconds / 1000000

@[simp] theorem milliseconds_ofMilliseconds (n : Nat) : (ofMilliseconds n).milliseconds = n := by
  simp [milliseconds, ofMilliseconds]

end Duration

end Laneway
