import Laneway.Duration

set_option autoImplicit false

/-! # Readings of the clock

A reading counts nanoseconds from the start of the clock, and its whole seconds have to fit a
signed 64-bit integer. Adding a duration can therefore leave the range: settings hold up to
`2 ^ 64 - 1` seconds. -/

namespace Laneway

/-- A reading of the clock. -/
structure Instant where
  /-- The time since the clock started. -/
  nanoseconds : Nat
  /-- Its seconds are below `2 ^ 63`. -/
  range : nanoseconds < 0x8000000000000000 * 1000000000
deriving DecidableEq

namespace Instant

def start : Instant := ⟨0, by decide⟩

instance : Inhabited Instant := ⟨start⟩

instance : LT Instant := ⟨fun a b => a.nanoseconds < b.nanoseconds⟩

instance : LE Instant := ⟨fun a b => a.nanoseconds ≤ b.nanoseconds⟩

instance (a b : Instant) : Decidable (a < b) :=
  inferInstanceAs (Decidable (a.nanoseconds < b.nanoseconds))

instance (a b : Instant) : Decidable (a ≤ b) :=
  inferInstanceAs (Decidable (a.nanoseconds ≤ b.nanoseconds))

/-- The reading a duration later, if the clock can show it. -/
def after? (t : Instant) (d : Duration) : Option Instant :=
  if h : t.nanoseconds + d.nanoseconds < 0x8000000000000000 * 1000000000 then
    some ⟨t.nanoseconds + d.nanoseconds, h⟩
  else none

def later (a b : Instant) : Instant := if a < b then b else a

theorem after?_eq_some_iff {t u : Instant} {d : Duration} :
    t.after? d = some u ↔ u.nanoseconds = t.nanoseconds + d.nanoseconds := by
  unfold after?
  split
  · constructor
    · rintro h
      exact (congrArg nanoseconds (Option.some.inj h)).symm
    · intro h
      obtain ⟨n, range⟩ := u
      subst h
      rfl
  · rename_i h
    constructor
    · exact fun h' => nomatch h'
    · intro h'
      exact absurd (h' ▸ u.range) h

/-- The clock cannot show a reading exactly when its seconds leave the range. -/
theorem after?_eq_none_iff {t : Instant} {d : Duration} :
    t.after? d = none ↔
      0x8000000000000000 * 1000000000 ≤ t.nanoseconds + d.nanoseconds := by
  unfold after?
  split <;> simp <;> omega

end Instant

end Laneway
