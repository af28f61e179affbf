import Mathlib.Algebra.Group.Nat.Defs
import Laneway.Decimal.Shortest

set_option autoImplicit false

/-! # The numbers that round to a double

A quotient rounds to a double when it lies in the interval around it that ends half way to its
neighbours, the ends included where the mantissa is even. The rounding finds its scale by the
logarithms of numerator and denominator, and only at a power of two is it another scale than that of
the double: a quotient just below is rounded on the finer grid below, up to the power itself. -/

namespace Laneway.Double

/-! ## The parts of a finite double -/

theorem mantissa_lt (d : Double) : d.mantissa < 2 * hiddenBit := by
  have low : d.magnitude % hiddenBit < hiddenBit := Nat.mod_lt _ (by decide)
  rw [mantissa]
  split <;> omega

/-- A mantissa that is scaled is a whole one. -/
theorem hiddenBit_le_mantissa {d : Double} (scaled : 0 < d.binaryScale) :
    hiddenBit ≤ d.mantissa := by
  have exponent : d.exponentField ≠ 0 := by
    rw [binaryScale] at scaled
    omega
  rw [mantissa, if_neg exponent]
  exact Nat.le_add_left _ _

theorem magnitude_eq (d : Double) : d.magnitude = d.binaryScale <<< 52 + d.mantissa := by
  have parts : d.magnitude = hiddenBit * d.exponentField + d.magnitude % hiddenBit := by
    rw [exponentField, Nat.shiftRight_eq_div_pow]
    exact (Nat.div_add_mod _ _).symm
  rw [Nat.shiftLeft_eq, binaryScale, mantissa]
  simp only [hiddenBit] at parts ⊢
  split <;> omega

theorem xor_signBit {n : Nat} (low : n < signBit) : n ^^^ signBit = signBit + n := by
  have low : n < 2 ^ 63 := low
  have high : (n ^^^ signBit) / 2 ^ 63 = 1 := by
    rw [Nat.xor_div_two_pow, Nat.div_eq_of_lt low]
    rfl
  have rest : (n ^^^ signBit) % 2 ^ 63 = n := by
    rw [Nat.xor_mod_two_pow, Nat.mod_eq_of_lt low]
    exact Nat.xor_zero n
  have parts := Nat.div_add_mod (n ^^^ signBit) (2 ^ 63)
  rw [high, rest] at parts
  exact parts.symm

theorem magnitude_lt (d : Double) : d.magnitude < signBit := Nat.mod_lt _ (by decide)

theorem toNat_magnitude (d : Double) : (UInt64.ofNat d.magnitude).toNat = d.magnitude := by
  rw [UInt64.toNat_ofNat']
  exact Nat.mod_eq_of_lt (Nat.lt_trans d.magnitude_lt (by decide))

/-- A double is its magnitude with its sign. -/
theorem signed_magnitude (d : Double) :
    (if d.isNegative then (⟨UInt64.ofNat d.magnitude⟩ : Double).negate
      else ⟨UInt64.ofNat d.magnitude⟩) = d := by
  have whole := d.bits.toNat_lt
  have parts : signBit * (d.bits.toNat / signBit) + d.magnitude = d.bits.toNat :=
    Nat.div_add_mod _ _
  have bits {n : UInt64} (same : n.toNat = d.bits.toNat) : (⟨n⟩ : Double) = d :=
    congrArg Double.mk (UInt64.toNat_inj.1 same)
  by_cases negative : signBit ≤ d.bits.toNat
  · rw [isNegative, if_pos (decide_eq_true negative), negate]
    refine bits ?_
    rw [UInt64.toNat_xor, toNat_magnitude]
    show _ ^^^ signBit = _
    rw [xor_signBit d.magnitude_lt]
    simp only [signBit] at *
    omega
  · rw [isNegative, decide_eq_false negative, if_neg (by decide)]
    refine bits ?_
    rw [toNat_magnitude]
    simp only [signBit] at *
    omega

/-! ## Rounding to a whole number -/

/-- A quotient no further than a half from a whole number rounds to it; one just half way does when
    the number is even. -/
theorem roundQuotient_eq {num den n : Nat} (positive : 0 < den)
    (low : 2 * (den * n) ≤ 2 * num + den)
    (high : 2 * num ≤ 2 * (den * n) + den)
    (strict : n % 2 = 1 → 2 * (den * n) < 2 * num + den ∧ 2 * num < 2 * (den * n) + den) :
    roundQuotient num den = n := by
  have division : den * (num / den) + num % den = num := Nat.div_add_mod num den
  have below : num % den < den := Nat.mod_lt _ positive
  have notAbove : num / den ≤ n := by
    refine Nat.le_of_not_lt fun above => ?_
    have more := Nat.mul_le_mul_left den above
    rw [Nat.mul_succ] at more
    omega
  have near : n ≤ num / den + 1 := by
    refine Nat.le_of_not_lt fun far => ?_
    have more := Nat.mul_le_mul_left den far
    rw [Nat.mul_succ, Nat.mul_succ] at more
    omega
  simp only [roundQuotient, Bool.or_eq_true, decide_eq_true_eq, Bool.and_eq_true, beq_iff_eq]
  rcases Nat.lt_or_eq_of_le notAbove with lower | same
  · -- the floor is the number below, so the rest is at least a half
    have next : num / den + 1 = n := by omega
    have floor : den * n = den * (num / den) + den := by rw [← next, Nat.mul_succ]
    rw [if_pos (by omega), next]
  · rw [same] at division ⊢
    rw [if_neg (by omega)]

theorem roundQuotient_le (num den : Nat) : roundQuotient num den ≤ num / den + 1 := by
  unfold roundQuotient
  dsimp only
  split <;> omega

/-! ## The scale of a quotient -/

/-- The logarithms tell a quotient that is scaled by a power of two up to a factor of four. -/
theorem quotient_bounds {num den : Nat} (numerator : 0 < num) (denominator : 0 < den) (k : Nat) :
    num <<< k < 2 ^ (num.log2 + k - den.log2 + 1) * den ∧
      (0 < num.log2 + k - den.log2 → 2 ^ (num.log2 + k - den.log2 - 1) * den ≤ num <<< k) := by
  have numLow : 2 ^ (num.log2 + k) ≤ num <<< k := by
    rw [Nat.pow_add, Nat.shiftLeft_eq]
    exact Nat.mul_le_mul_right _ (Nat.log2_self_le (by omega))
  have numHigh : num <<< k < 2 ^ (num.log2 + 1 + k) := by
    rw [Nat.pow_add 2 (num.log2 + 1), Nat.shiftLeft_eq]
    exact Nat.mul_lt_mul_of_pos_right Nat.lt_log2_self (Nat.pow_pos (by decide))
  have denLow : 2 ^ den.log2 ≤ den := Nat.log2_self_le (by omega)
  have denHigh : den < 2 ^ (den.log2 + 1) := Nat.lt_log2_self
  refine ⟨Nat.lt_of_lt_of_le numHigh ?_, fun positive => Nat.le_trans ?_ numLow⟩
  · refine Nat.le_trans ?_ (Nat.mul_le_mul_left _ denLow)
    rw [← Nat.pow_add]
    exact Nat.pow_le_pow_right (by decide) (by omega)
  · refine Nat.le_trans (Nat.mul_le_mul_left _ (Nat.le_of_lt denHigh)) ?_
    rw [← Nat.pow_add]
    exact Nat.pow_le_pow_right (by decide) (by omega)

/-- A quotient is rounded at the scale that leaves it fifty-three bits, or at none. -/
theorem nearestMagnitude_eq {num den : Nat} (numerator : 0 < num) (denominator : 0 < den) :
    ∃ scale, num <<< 1074 < 2 ^ (53 + scale) * den ∧
      (scale = 0 ∨ 2 ^ (52 + scale) * den ≤ num <<< 1074) ∧
      nearestMagnitude num den =
        min (scale <<< 52 + roundQuotient (num <<< 1074) (den <<< scale)) infinityBits := by
  obtain ⟨high, low⟩ := quotient_bounds numerator denominator 1074
  have fits (scale : Nat) : num <<< 1074 / den <<< scale < 2 * hiddenBit ↔
      num <<< 1074 < 2 ^ (53 + scale) * den := by
    have positive : 0 < den <<< scale := by
      rw [Nat.shiftLeft_eq]
      exact Nat.mul_pos denominator (Nat.pow_pos (by decide))
    have product : 2 * hiddenBit * den <<< scale = 2 ^ (53 + scale) * den := by
      rw [Nat.shiftLeft_eq, Nat.pow_add, Nat.mul_comm den, ← Nat.mul_assoc]
      rfl
    rw [Nat.div_lt_iff_lt_mul positive, product]
  have nonzero : num ≠ 0 := by omega
  simp only [nearestMagnitude, if_neg nonzero]
  generalize num.log2 + 1074 - den.log2 = top at high low ⊢
  split
  · next guess =>
    refine ⟨top - 53, (fits _).1 guess, ?_, rfl⟩
    by_cases small : top - 53 = 0
    · exact .inl small
    · refine .inr (Nat.le_trans (Nat.le_of_eq ?_) (low (by omega)))
      rw [show 52 + (top - 53) = top - 1 by omega]
  · next large =>
    have large := Nat.not_lt.1 fun below => large ((fits _).2 below)
    refine ⟨top - 53 + 1, Nat.lt_of_lt_of_le high ?_, .inr ?_, rfl⟩
    · exact Nat.mul_le_mul_right _ (Nat.pow_le_pow_right (by decide) (by omega))
    · rwa [show 52 + (top - 53 + 1) = 53 + (top - 53) by omega]

/-! ## The interval of a double -/

/-- The quotient lies in the interval of numbers that round to the double. -/
def Rounds (d : Double) (num den : Nat) : Prop :=
  let (low, high) := Decimal.interval d
  if d.mantissa % 2 = 0 then low * den ≤ num <<< 1076 ∧ num <<< 1076 ≤ high * den
  else low * den < num <<< 1076 ∧ num <<< 1076 < high * den

/-- Whether a quotient rounds to a double depends on its value alone. -/
theorem Rounds.congr {d : Double} {num den num' den' : Nat} (rounds : d.Rounds num den)
    (same : num * den' = num' * den) (denominator : 0 < den) (denominator' : 0 < den') :
    d.Rounds num' den' := by
  have left (bound : Nat) : bound * den * den' = den * (bound * den') := by
    rw [Nat.mul_comm bound, Nat.mul_assoc]
  have right : num <<< 1076 * den' = den * num' <<< 1076 := by
    rw [Nat.shiftLeft_eq, Nat.mul_right_comm, same, Nat.mul_right_comm, Nat.mul_comm,
      Nat.shiftLeft_eq]
  have le {bound : Nat} : bound * den ≤ num <<< 1076 ↔ bound * den' ≤ num' <<< 1076 := by
    rw [← Nat.mul_le_mul_right_iff denominator', left, right, Nat.mul_le_mul_left_iff denominator]
  have ge {bound : Nat} : num <<< 1076 ≤ bound * den ↔ num' <<< 1076 ≤ bound * den' := by
    rw [← Nat.mul_le_mul_right_iff denominator', left, right, Nat.mul_le_mul_left_iff denominator]
  simpa only [Rounds, ← Nat.not_le, le, ge] using rounds

/-- How far the interval reaches down, in quarters of the last bit. -/
def reach (d : Double) : Nat := if d.mantissa = hiddenBit ∧ 1 < d.exponentField then 1 else 2

theorem reach_le (d : Double) : d.reach ≤ 2 := by
  rw [reach]
  split <;> decide

/-- The interval in terms of the unit that the mantissa counts. -/
theorem rounds_iff {d : Double} (positive : 0 < d.mantissa) {num den unit : Nat}
    (scaled : unit = den <<< d.binaryScale) :
    d.Rounds num den ↔
      4 * (unit * d.mantissa) ≤ 4 * num <<< 1074 + d.reach * unit ∧
      4 * num <<< 1074 ≤ 4 * (unit * d.mantissa) + 2 * unit ∧
      (d.mantissa % 2 = 1 →
        4 * (unit * d.mantissa) < 4 * num <<< 1074 + d.reach * unit ∧
        4 * num <<< 1074 < 4 * (unit * d.mantissa) + 2 * unit) := by
  have quarters : num <<< 1076 = 4 * num <<< 1074 := by
    rw [show 1076 = 1074 + 2 from rfl, Nat.shiftLeft_add, Nat.shiftLeft_eq _ 2, Nat.mul_comm]
  have shifted (k : Nat) : k * (1 <<< d.binaryScale) * den = k * unit := by
    rw [scaled, Nat.shiftLeft_eq, Nat.shiftLeft_eq, Nat.one_mul, Nat.mul_assoc, Nat.mul_comm den]
  have interval : Decimal.interval d = ((4 * d.mantissa - d.reach) * (1 <<< d.binaryScale),
      (4 * d.mantissa + 2) * (1 <<< d.binaryScale)) := rfl
  have reach := d.reach_le
  have low : (4 * d.mantissa - d.reach) * unit + d.reach * unit = 4 * (unit * d.mantissa) := by
    rw [← Nat.add_mul, Nat.sub_add_cancel (by omega), Nat.mul_assoc, Nat.mul_comm unit]
  have high : (4 * d.mantissa + 2) * unit = 4 * (unit * d.mantissa) + 2 * unit := by
    rw [Nat.add_mul, Nat.mul_assoc, Nat.mul_comm unit]
  simp only [Rounds, interval, shifted, quarters]
  generalize num <<< 1074 = n
  split <;> omega

theorem Rounds.numerator_pos {d : Double} (positive : 0 < d.mantissa) {num den : Nat}
    (denominator : 0 < den) (rounds : d.Rounds num den) : 0 < num := by
  obtain ⟨low, -⟩ := (rounds_iff positive rfl).1 rounds
  have unit : 0 < den <<< d.binaryScale := by
    rw [Nat.shiftLeft_eq]
    exact Nat.mul_pos denominator (Nat.pow_pos (by decide))
  rcases Nat.eq_zero_or_pos num with zero | numerator
  · have reach := Nat.mul_le_mul_right (den <<< d.binaryScale) d.reach_le
    have whole := Nat.mul_le_mul_left (den <<< d.binaryScale) positive
    rw [zero, Nat.zero_shiftLeft] at low
    omega
  · exact numerator

/-- The scale at which a quotient in the interval is rounded, and what it is rounded to there. Here
    `unit k` is the denominator shifted by `k` bits, and `n` the numerator over `2 ^ 1074`. -/
theorem rounded_at {unit : Nat → Nat} (unit_pos : ∀ k, 0 < unit k)
    (double : ∀ {small large}, small < large → 2 * unit small ≤ unit large)
    (next : ∀ k, unit (k + 1) = 2 * unit k) {d : Double} {n scale : Nat}
    (high : n < 2 ^ 53 * unit scale) (low : scale = 0 ∨ 2 ^ 52 * unit scale ≤ n)
    (above : 4 * (unit d.binaryScale * d.mantissa) ≤ 4 * n + d.reach * unit d.binaryScale)
    (below : 4 * n ≤ 4 * (unit d.binaryScale * d.mantissa) + 2 * unit d.binaryScale)
    (strict : d.mantissa % 2 = 1 →
      4 * (unit d.binaryScale * d.mantissa) < 4 * n + d.reach * unit d.binaryScale ∧
      4 * n < 4 * (unit d.binaryScale * d.mantissa) + 2 * unit d.binaryScale) :
    scale <<< 52 + roundQuotient n (unit scale) = d.binaryScale <<< 52 + d.mantissa := by
  have positive := unit_pos d.binaryScale
  have reach := Nat.mul_le_mul_right (unit d.binaryScale) d.reach_le
  rcases Nat.lt_trichotomy scale d.binaryScale with finer | same | coarser
  · -- on a finer grid only just below a power of two
    have wide := double finer
    have least : 2 ^ 52 ≤ d.mantissa := hiddenBit_le_mantissa (by omega)
    have power : d.mantissa = 2 ^ 52 := by
      refine Nat.le_antisymm (Nat.le_of_not_lt fun more => ?_) least
      have := Nat.mul_le_mul_left (unit d.binaryScale) more
      omega
    have narrow : d.reach = 1 := by
      have exponent : 1 < d.exponentField := by
        rw [binaryScale] at finer
        omega
      rw [Double.reach, if_pos ⟨power, exponent⟩]
    rw [power, narrow] at above
    have one : d.binaryScale = scale + 1 := by
      refine Nat.le_antisymm (Nat.le_of_not_lt fun far => ?_) finer
      have := double far
      have := next scale
      omega
    have half : unit d.binaryScale = 2 * unit scale := by rw [one, next]
    have rounded : roundQuotient n (unit scale) = 2 ^ 53 :=
      roundQuotient_eq (unit_pos scale) (by omega) (by omega) (by omega)
    rw [rounded, one, power, Nat.shiftLeft_eq, Nat.shiftLeft_eq]
    omega
  · subst same
    rw [roundQuotient_eq positive (n := d.mantissa) (by omega) (by omega) (by omega)]
  · exfalso
    have wide := double coarser
    have whole : d.mantissa ≤ 2 ^ 53 - 1 := Nat.le_pred_of_lt d.mantissa_lt
    have most := Nat.mul_le_mul_left (unit d.binaryScale) whole
    omega

/-- A quotient in the interval of a finite double rounds to it. -/
theorem Rounds.nearestMagnitude {d : Double} (finite : d.isFinite = true)
    (positive : 0 < d.mantissa) {num den : Nat} (denominator : 0 < den)
    (rounds : d.Rounds num den) : nearestMagnitude num den = d.magnitude := by
  obtain ⟨scale, high, low, nearest⟩ :=
    nearestMagnitude_eq (rounds.numerator_pos positive denominator) denominator
  obtain ⟨above, below, strict⟩ := (rounds_iff positive rfl).1 rounds
  have finite : d.magnitude ≤ infinityBits := by
    rw [isFinite, decide_eq_true_eq] at finite
    exact Nat.le_of_lt finite
  have bits (k : Nat) : 2 ^ (k + scale) * den = 2 ^ k * den <<< scale := by
    rw [Nat.shiftLeft_eq, Nat.pow_add, Nat.mul_comm den, Nat.mul_assoc]
  have unit_pos (k : Nat) : 0 < den <<< k := by
    rw [Nat.shiftLeft_eq]
    exact Nat.mul_pos denominator (Nat.pow_pos (by decide))
  have next (k : Nat) : den <<< (k + 1) = 2 * den <<< k := by
    rw [Nat.shiftLeft_succ, Nat.mul_comm]
  have double {small large : Nat} (h : small < large) : 2 * den <<< small ≤ den <<< large := by
    rw [← next, Nat.shiftLeft_eq, Nat.shiftLeft_eq]
    exact Nat.mul_le_mul_left _ (Nat.pow_le_pow_right (by decide) h)
  rw [bits] at high low
  rw [nearest, rounded_at unit_pos double next high low above below strict, ← magnitude_eq,
    Nat.min_eq_left finite]

/-! ## Whole numbers -/

/-- A whole number of 64 bits is far below the largest double. -/
theorem isFinite_ofNat {n : Nat} (fits : n < 2 ^ 64) : (ofNat n).isFinite = true := by
  have below : nearestMagnitude n 1 < infinityBits := by
    rcases Nat.eq_zero_or_pos n with rfl | positive
    · decide
    obtain ⟨scale, high, low, nearest⟩ := nearestMagnitude_eq positive Nat.one_pos
    have size (k : Nat) : n <<< k < 2 ^ (64 + k) := by
      rw [Nat.shiftLeft_eq, Nat.pow_add]
      exact Nat.mul_lt_mul_of_pos_right fits (Nat.pow_pos (by decide))
    have scaled : scale ≤ 1085 := by
      rcases low with rfl | low
      · exact Nat.zero_le _
      · rw [Nat.mul_one] at low
        have := (Nat.pow_lt_pow_iff_right (by decide)).1 (Nat.lt_of_le_of_lt low (size 1074))
        omega
    have grid : 1 <<< scale * 2 ^ 53 = 2 ^ (53 + scale) * 1 := by
      rw [Nat.shiftLeft_eq, Nat.one_mul, Nat.mul_comm, ← Nat.pow_add, Nat.mul_one]
    have rounded : roundQuotient (n <<< 1074) (1 <<< scale) ≤ 2 ^ 53 :=
      Nat.le_trans (roundQuotient_le _ _) (Nat.div_lt_of_lt_mul (grid ▸ high))
    rw [nearest, Nat.shiftLeft_eq, infinityBits]
    omega
  have signed : infinityBits < signBit := by decide
  have size : signBit < 2 ^ 64 := by decide
  rw [isFinite, decide_eq_true_eq, magnitude, ofNat, ofQuotient, UInt64.toNat_ofNat',
    Nat.mod_eq_of_lt (by omega), Nat.mod_eq_of_lt (by omega)]
  exact below

end Laneway.Double
