import Laneway.Decimal.Double

set_option autoImplicit false

/-! # Single-precision numbers as doubles

Every single-precision number is a double: its twenty-four bits of mantissa fit into fifty-three,
and its exponents are a part of theirs. -/

namespace Laneway

namespace Double

/-- The double of the same value as a single-precision pattern; infinities and NaN stay so. -/
def ofSingle (bits : UInt32) : Double :=
  let n := bits.toNat
  let exponent := n >>> 23 % 256
  let fraction := n % 0x800000
  let magnitude :=
    if exponent = 255 then infinityBits + fraction <<< 29
    else if exponent = 0 then nearestMagnitude fraction (1 <<< 149)
    else nearestMagnitude ((fraction + 0x800000) <<< exponent) (1 <<< 150)
  ⟨UInt64.ofNat (if n < 0x80000000 then magnitude else magnitude + signBit)⟩

end Double

end Laneway
