import Laneway.Proofs.Decimal.Nearest

set_option autoImplicit false

/-! # The shortest decimal reads back

Of the two decimals with seventeen digits next to a double, one at least lies in the interval of
numbers that round to it: they are closer to each other than the interval is wide. So the search for
the fewest digits ends with a decimal that rounds to the double. -/

namespace Laneway.Decimal

theorem shift_eq (n zeros : Nat) : shift n zeros = n * 10 ^ zeros := rfl

theorem shift_pos {n : Nat} (positive : 0 < n) (zeros : Nat) : 0 < shift n zeros :=
  Nat.mul_pos positive (Nat.pow_pos (by decide))

theorem one_shiftLeft_pos (k : Nat) : 0 < 1 <<< k := by
  rw [Nat.one_shiftLeft]
  exact Nat.pow_pos (by decide)

theorem denominator_pos (c : Decimal) : 0 < c.quotient.2 := shift_pos (by decide) _

theorem readsAs_iff (d : Double) (c : Decimal) :
    readsAs d c = true ↔ d.Rounds c.quotient.1 c.quotient.2 := by
  simp only [readsAs, Double.Rounds]
  split <;> simp

/-! ## The first digit -/

/-- The power of ten is not above the quotient. -/
def Below (num den : Nat) (lead : Int) : Prop := shift den lead.toNat ≤ shift num (-lead).toNat

theorem below_leadFrom {num den tries : Nat} {guess : Int}
    (enough : Below num den (guess - tries)) : Below num den (leadFrom num den tries guess) := by
  induction tries generalizing guess with
  | zero => simpa [leadFrom] using enough
  | succ tries ih =>
    rw [leadFrom]
    split
    · next below => exact below
    · exact ih (by rwa [show guess - 1 - (tries : Int) = guess - (tries + 1 : Nat) by omega])

/-- Three digits take at most ten bits, and one digit four. -/
theorem ten_pow_le (a : Nat) : 10 ^ a ≤ 2 ^ (10 * (a / 3) + 4 * (a % 3)) := by
  calc 10 ^ a = 10 ^ (3 * (a / 3) + a % 3) := by rw [Nat.div_add_mod]
    _ = (10 ^ 3) ^ (a / 3) * 10 ^ (a % 3) := by rw [Nat.pow_add, Nat.pow_mul]
    _ ≤ (2 ^ 10) ^ (a / 3) * (2 ^ 4) ^ (a % 3) :=
      Nat.mul_le_mul (Nat.pow_le_pow_left (by decide) _) (Nat.pow_le_pow_left (by decide) _)
    _ = 2 ^ (10 * (a / 3) + 4 * (a % 3)) := by rw [Nat.pow_add, Nat.pow_mul, Nat.pow_mul]

/-- Twenty-eight digits hold ninety-three bits, four digits thirteen, and one digit three. -/
theorem le_ten_pow (b : Nat) :
    2 ^ (93 * (b / 28) + (13 * (b % 28 / 4) + 3 * (b % 28 % 4))) ≤ 10 ^ b := by
  calc 2 ^ (93 * (b / 28) + (13 * (b % 28 / 4) + 3 * (b % 28 % 4)))
      = (2 ^ 93) ^ (b / 28) * ((2 ^ 13) ^ (b % 28 / 4) * (2 ^ 3) ^ (b % 28 % 4)) := by
        rw [Nat.pow_add, Nat.pow_add, Nat.pow_mul, Nat.pow_mul, Nat.pow_mul]
    _ ≤ (10 ^ 28) ^ (b / 28) * ((10 ^ 4) ^ (b % 28 / 4) * 10 ^ (b % 28 % 4)) :=
      Nat.mul_le_mul (Nat.pow_le_pow_left (by decide) _)
        (Nat.mul_le_mul (Nat.pow_le_pow_left (by decide) _) (Nat.pow_le_pow_left (by decide) _))
    _ = 10 ^ b := by
      rw [← Nat.pow_mul, ← Nat.pow_mul, ← Nat.pow_add, ← Nat.pow_add, Nat.div_add_mod,
        Nat.div_add_mod]

/-- Counted in bits, the power of ten is not above the quotient of two powers of two. -/
theorem below_of_bits {k l : Nat} {e : Int}
    (up : k + (10 * (e.toNat / 3) + 4 * (e.toNat % 3)) ≤ l ∨ e < 0)
    (down : k ≤ l + (93 * ((-e).toNat / 28) +
      (13 * ((-e).toNat % 28 / 4) + 3 * ((-e).toNat % 28 % 4))) ∨ 0 < e) :
    Below (2 ^ l) (1 <<< k) e := by
  rw [Below, shift_eq, shift_eq, Nat.one_shiftLeft]
  rcases up with up | below
  · refine Nat.le_trans (Nat.mul_le_mul_left _ (ten_pow_le _)) ?_
    rw [← Nat.pow_add]
    exact Nat.le_trans (Nat.pow_le_pow_right (by decide) up)
      (Nat.le_mul_of_pos_right _ (Nat.pow_pos (by decide)))
  · have none : e.toNat = 0 := by omega
    rw [none, Nat.pow_zero, Nat.mul_one]
    refine Nat.le_trans ?_ (Nat.mul_le_mul_left _ (le_ten_pow _))
    rw [← Nat.pow_add]
    exact Nat.pow_le_pow_right (by decide) (by omega)

/-- The guess by logarithms is at most four powers too high. -/
theorem below_guess {l : Nat} (finite : l < 2098) :
    Below (2 ^ l) (1 <<< 1074) (((l : Int) - 1074 + 1) * 30103 / 100000 + 1 - 4) :=
  below_of_bits (k := 1074) (by omega) (by omega)

/-- With seventeen digits there are sixteen after the first. -/
theorem Below.scaled {num den : Nat} {lead : Int} (below : Below num den lead) :
    10 ^ 16 * shift den (lead - 16).toNat ≤ shift num (-(lead - 16)).toNat := by
  obtain ⟨k, high, low⟩ : ∃ k, lead.toNat + k = 16 + (lead - 16).toNat ∧
      (-lead).toNat + k = (-(lead - 16)).toNat := ⟨(-(lead - 16)).toNat - (-lead).toNat, by omega⟩
  have more := Nat.mul_le_mul_right (10 ^ k) below
  simp only [shift_eq, Nat.mul_assoc, ← Nat.pow_add, high, low] at more ⊢
  rwa [Nat.mul_left_comm, ← Nat.pow_add]

/-! ## Seventeen digits -/

/-- A grid that is `10 ^ 16` times finer than the value has a point inside the interval: the value
    is `m` units, the grid counts `step`, and the interval reaches `reach` quarters of a unit down.
    -/
theorem exists_close {m unit step q r reach : Nat} (value : step * q + r = unit * m)
    (rest : r < step) (fine : 10 ^ 16 * step ≤ unit * m) (mantissa : m < 2 ^ 53)
    (reaches : reach = 2 ∨ reach = 1 ∧ m = 2 ^ 52) :
    (4 * (unit * m) < 4 * (step * q) + reach * unit ∧
      4 * (step * q) < 4 * (unit * m) + 2 * unit) ∨
    (4 * (unit * m) < 4 * (step * (q + 1)) + reach * unit ∧
      4 * (step * (q + 1)) < 4 * (unit * m) + 2 * unit) := by
  have whole := Nat.mul_le_mul_left unit (show m ≤ 2 ^ 53 - 1 by omega)
  rw [Nat.mul_succ]
  rcases reaches with rfl | ⟨rfl, rfl⟩
  · omega
  · omega

theorem shiftLeft_shift (n zeros k : Nat) : shift n zeros <<< k = shift (1 <<< k) zeros * n := by
  simp only [shift_eq, Nat.shiftLeft_eq, Nat.one_mul]
  ac_rfl

/-- A decimal on a grid reads as the double when it is close enough. -/
theorem readsAs_of_close {d : Double} (positive : 0 < d.mantissa) {c : Decimal} {unit step : Nat}
    (scaled : unit = c.quotient.2 <<< d.binaryScale)
    (grid : step = shift (1 <<< 1074) c.exponent.toNat)
    (close : 4 * (unit * d.mantissa) < 4 * (step * c.digits) + d.reach * unit ∧
      4 * (step * c.digits) < 4 * (unit * d.mantissa) + 2 * unit) : readsAs d c = true := by
  have counted : c.quotient.1 <<< 1074 = step * c.digits := by
    rw [grid]
    exact shiftLeft_shift c.digits c.exponent.toNat 1074
  rw [readsAs_iff, Double.rounds_iff positive scaled, counted]
  omega

/-- One of the two neighbours with seventeen digits reads as the double. -/
theorem neighbour_readsAs {d : Double} (positive : 0 < d.mantissa) {lead : Int}
    (below : Below d.quotient.1 d.quotient.2 lead) :
    readsAs d (neighbour d lead 17).1 = true ∨
      readsAs d ⟨(neighbour d lead 17).1.digits + 1, (neighbour d lead 17).1.exponent⟩ = true := by
  have exponent : lead + 1 - (17 : Nat) = lead - 16 := by omega
  simp only [neighbour, exponent]
  obtain ⟨step, grid⟩ : ∃ step, step = shift (1 <<< 1074) (lead - 16).toNat := ⟨_, rfl⟩
  obtain ⟨unit, scaled⟩ : ∃ unit, unit = shift 1 (-(lead - 16)).toNat <<< d.binaryScale := ⟨_, rfl⟩
  have value : shift d.quotient.1 (-(lead - 16)).toNat = unit * d.mantissa := by
    show shift (d.mantissa <<< d.binaryScale) _ = _
    simp only [scaled, shift_eq, Nat.shiftLeft_eq, Nat.one_mul]
    ac_rfl
  have fine : 10 ^ 16 * step ≤ unit * d.mantissa := by
    rw [← value, grid]
    exact below.scaled
  have counts : 0 < step := grid ▸ shift_pos (one_shiftLeft_pos 1074) _
  have division := Nat.div_add_mod (unit * d.mantissa) step
  have rest := Nat.mod_lt (unit * d.mantissa) counts
  have reaches : d.reach = 2 ∨ d.reach = 1 ∧ d.mantissa = 2 ^ 52 := by
    rw [Double.reach]
    split
    · next power => exact .inr ⟨rfl, power.1⟩
    · exact .inl rfl
  have den : d.quotient.2 = 1 <<< 1074 := rfl
  rw [den, ← grid, value]
  exact (exists_close division rest fine d.mantissa_lt reaches).imp
    (readsAs_of_close positive scaled grid) (readsAs_of_close positive scaled grid)

/-! ## The search -/

theorem candidate?_isSome {d : Double} {lead : Int} {count : Nat}
    (close : readsAs d (neighbour d lead count).1 = true ∨
      readsAs d ⟨(neighbour d lead count).1.digits + 1, (neighbour d lead count).1.exponent⟩ =
        true) : (candidate? d lead count).isSome = true := by
  simp only [candidate?]
  split <;> simp [close, Or.comm]

theorem log2_one_shiftLeft (k : Nat) : (1 <<< k).log2 = k := by
  rw [Nat.one_shiftLeft, Nat.log2_two_pow]

theorem log2_shiftLeft_lt {n bits zeros most : Nat} (positive : 0 < n) (fits : n < 2 ^ bits)
    (few : zeros ≤ most) : n <<< zeros ≠ 0 ∧ (n <<< zeros).log2 < bits + most := by
  rw [Nat.shiftLeft_eq]
  have nonzero : n * 2 ^ zeros ≠ 0 :=
    Nat.ne_of_gt (Nat.mul_pos positive (Nat.pow_pos (by decide)))
  refine ⟨nonzero, (Nat.log2_lt nonzero).2 ?_⟩
  rw [Nat.pow_add]
  exact Nat.mul_lt_mul_of_lt_of_le fits (Nat.pow_le_pow_right (by decide) few)
    (Nat.pow_pos (by decide))

/-- The scale of a finite double leaves its numerator `2098` bits. -/
theorem binaryScale_le {d : Double} (finite : d.isFinite = true) : d.binaryScale ≤ 2045 := by
  have size := Double.magnitude_eq d
  rw [Double.isFinite, decide_eq_true_eq, size, Double.infinityBits, Nat.shiftLeft_eq] at finite
  rcases Nat.eq_zero_or_pos d.binaryScale with none | scaled
  · omega
  · have whole := Double.hiddenBit_le_mantissa scaled
    simp only [Double.hiddenBit] at whole
    omega

theorem Below.mono {num more den : Nat} {e : Int} (below : Below num den e) (le : num ≤ more) :
    Below more den e := Nat.le_trans below (Nat.mul_le_mul_right _ le)

/-- The search for the first digit ends at a power of ten that is not above the value. -/
theorem below_lead {d : Double} (finite : d.isFinite = true) (positive : 0 < d.mantissa) :
    Below d.quotient.1 d.quotient.2 (leadFrom d.quotient.1 d.quotient.2 4
      (((d.quotient.1.log2 : Int) - (d.quotient.2.log2 : Int) + 1) * 30103 / 100000 + 1)) := by
  obtain ⟨nonzero, bits⟩ := log2_shiftLeft_lt positive
    (show d.mantissa < 2 ^ 53 from d.mantissa_lt) (binaryScale_le finite)
  have log2 : d.quotient.2.log2 = 1074 := log2_one_shiftLeft 1074
  rw [log2]
  exact below_leadFrom ((below_guess bits).mono (Nat.log2_self_le nonzero))

/-- A zero can be taken off the digits. -/
theorem quotient_drop_zero {c : Decimal} (zero : c.digits % 10 = 0) :
    c.quotient.1 * (⟨c.digits / 10, c.exponent + 1⟩ : Decimal).quotient.2 =
      (⟨c.digits / 10, c.exponent + 1⟩ : Decimal).quotient.1 * c.quotient.2 := by
  have digits : c.digits = c.digits / 10 * 10 := by omega
  have powers : 1 + (c.exponent.toNat + (-(c.exponent + 1)).toNat) =
      (c.exponent + 1).toNat + (-c.exponent).toNat := by omega
  show c.digits * 10 ^ c.exponent.toNat * (1 * 10 ^ (-(c.exponent + 1)).toNat) =
    c.digits / 10 * 10 ^ (c.exponent + 1).toNat * (1 * 10 ^ (-c.exponent).toNat)
  rw [Nat.one_mul, Nat.one_mul, Nat.mul_assoc, Nat.mul_assoc, ← Nat.pow_add, ← Nat.pow_add,
    ← powers, Nat.pow_add 10 1, ← Nat.mul_assoc, Nat.pow_one, ← digits]

theorem rounds_trim {d : Double} (budget : Nat) {c : Decimal}
    (rounds : d.Rounds c.quotient.1 c.quotient.2) :
    d.Rounds (trim budget c).quotient.1 (trim budget c).quotient.2 := by
  induction budget generalizing c with
  | zero => exact rounds
  | succ budget ih =>
    rw [trim]
    split
    · next zero =>
      exact ih (rounds.congr (quotient_drop_zero zero.1) (denominator_pos c) (denominator_pos _))
    · exact rounds

/-- The shortest decimal of a double rounds to it. -/
theorem rounds_shortest {d : Double} (finite : d.isFinite = true) (positive : 0 < d.mantissa) :
    d.Rounds (shortest d).quotient.1 (shortest d).quotient.2 := by
  have below := below_lead finite positive
  simp only [shortest]
  refine rounds_trim 20 ?_
  generalize leadFrom d.quotient.1 d.quotient.2 4 _ = lead at below ⊢
  have last := candidate?_isSome (neighbour_readsAs positive below)
  have found : ((List.range 17).findSome? fun n => candidate? d lead (n + 1)).isSome = true := by
    rw [List.findSome?_isSome_iff]
    exact ⟨16, by decide, last⟩
  obtain ⟨c, here⟩ := Option.isSome_iff_exists.1 found
  obtain ⟨n, -, candidate⟩ := List.exists_of_findSome?_eq_some here
  rw [here, Option.getD_some, ← readsAs_iff]
  exact List.find?_some candidate

end Laneway.Decimal
