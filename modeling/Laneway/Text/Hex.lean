set_option autoImplicit false

/-! # Hexadecimal digits

Digits of base sixteen are written in lower or upper case and read in either. A byte is two of
them. -/

namespace Laneway

namespace Hex

/-- The lower-case digit of a number below 16. -/
def lower (n : Nat) : Char := if n < 10 then Char.ofNat (48 + n) else Char.ofNat (87 + n)

/-- The upper-case digit of a number below 16. -/
def upper (n : Nat) : Char := if n < 10 then Char.ofNat (48 + n) else Char.ofNat (55 + n)

/-- The value of a digit in either case. -/
def value? (b : UInt8) : Option Nat :=
  if 0x30 ≤ b && b ≤ 0x39 then some (b.toNat - 0x30)
  else if 0x61 ≤ b && b ≤ 0x66 then some (b.toNat - 0x57)
  else if 0x41 ≤ b && b ≤ 0x46 then some (b.toNat - 0x37)
  else none

/-- The byte of two digits. -/
def byte? (high low : UInt8) : Option UInt8 := do
  return UInt8.ofNat ((← value? high) * 16 + (← value? low))

/-- A byte in upper-case digits. -/
def upperByte (b : UInt8) : List Char := [upper (b.toNat / 16), upper (b.toNat % 16)]

/-- A byte in lower-case digits. -/
def lowerByte (b : UInt8) : List Char := [lower (b.toNat / 16), lower (b.toNat % 16)]

def ofBytes (bytes : List UInt8) : String := String.ofList (bytes.flatMap lowerByte)

/-- The bytes of a run of digits, two digits each; `none` when a digit is missing or is none. -/
def bytes? : List UInt8 → Option (List UInt8)
  | [] => some []
  | high :: low :: rest => do return (← byte? high low) :: (← bytes? rest)
  | [_] => none

/-- Every digit reads back. -/
theorem value?_lower : ∀ n < 16, value? (UInt8.ofNat (lower n).toNat) = some n := by decide

theorem value?_upper : ∀ n < 16, value? (UInt8.ofNat (upper n).toNat) = some n := by decide

end Hex

end Laneway
