set_option autoImplicit false

/-! # Doubles as bit patterns, rounded by exact arithmetic

A `Double` is the 64-bit pattern of a binary floating-point number. Nothing here goes through
machine arithmetic: a pattern is taken apart into `mantissa · 2 ^ exponent`, and a quotient of
natural numbers is rounded to the nearest pattern, a tie going to the even one, so every operation
evaluates inside the logic. -/

namespace Laneway

/-- A double-precision number, held as its bit pattern. -/
structure Double where
  /-- Sign, eleven exponent bits, fifty-two fraction bits. -/
  bits : UInt64
deriving DecidableEq, Inhabited

namespace Double

/-- The pattern of the sign bit alone. -/
def signBit : Nat := 0x8000000000000000

/-- The bit above the fraction, which a normal number does not write. -/
def hiddenBit : Nat := 0x10000000000000

/-- The pattern of positive infinity. -/
def infinityBits : Nat := 0x7FF0000000000000

/-- Whether the number is below zero or a negative zero. -/
def isNegative (d : Double) : Bool := signBit ≤ d.bits.toNat

/-- The pattern without its sign. -/
def magnitude (d : Double) : Nat := d.bits.toNat % signBit

/-- Neither infinite nor a NaN. -/
def isFinite (d : Double) : Bool := d.magnitude < infinityBits

/-- The same number below zero. -/
def negate (d : Double) : Double := ⟨d.bits ^^^ 0x8000000000000000⟩

def exponentField (d : Double) : Nat := d.magnitude >>> 52

/-- The whole mantissa of a finite number; its magnitude is
    `mantissa · 2 ^ (binaryScale - 1074)`. -/
def mantissa (d : Double) : Nat :=
  if d.exponentField = 0 then d.magnitude % hiddenBit else d.magnitude % hiddenBit + hiddenBit

/-- The exponent of two that scales the mantissa, counted from `2 ^ (-1074)`. -/
def binaryScale (d : Double) : Nat := d.exponentField - 1

/-- The magnitude of a finite number as a quotient. -/
def quotient (d : Double) : Nat × Nat := (d.mantissa <<< d.binaryScale, 1 <<< 1074)

/-- A quotient of natural numbers rounded to the nearest natural number, ties to even. -/
def roundQuotient (num den : Nat) : Nat :=
  let whole := num / den
  let twice := 2 * (num % den)
  if den < twice || (twice == den && whole % 2 == 1) then whole + 1 else whole

/-- The pattern, without sign, nearest to `num / den`, ties to even; a value past the largest
    finite number becomes infinity. The scale is chosen so that fifty-three bits remain, and no
    finer than the subnormal grid. -/
def nearestMagnitude (num den : Nat) : Nat :=
  if num = 0 then 0
  else
    -- `num * 2 ^ 1074 / den` lies in `[2 ^ (top - 1), 2 ^ (top + 1))`
    let top := num.log2 + 1074 - den.log2
    let fits := fun (scale : Nat) => num <<< 1074 / den <<< scale < 2 * hiddenBit
    let guess := top - 53
    let scale := if fits guess then guess else guess + 1
    let rounded := roundQuotient (num <<< 1074) (den <<< scale)
    min (scale <<< 52 + rounded) infinityBits

/-- The double nearest to `num / den`. -/
def ofQuotient (num den : Nat) : Double := ⟨UInt64.ofNat (nearestMagnitude num den)⟩

def ofNat (n : Nat) : Double := ofQuotient n 1

/-- The product of the magnitudes of two finite numbers, rounded once. -/
def mul (a b : Double) : Double :=
  ofQuotient (a.quotient.1 * b.quotient.1) (a.quotient.2 * b.quotient.2)

/-- The quotient of the magnitudes of two finite numbers, rounded once. -/
def div (a b : Double) : Double :=
  ofQuotient (a.quotient.1 * b.quotient.2) (a.quotient.2 * b.quotient.1)

def powerOfTen (exponent : Nat) : Double := ofNat (Nat.pow 10 exponent)

end Double

end Laneway
