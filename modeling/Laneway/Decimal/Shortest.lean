import Laneway.Decimal.Double

set_option autoImplicit false

/-! # The shortest decimal of a double

The text of a finite double is the decimal with the fewest digits that still rounds to it, the
nearest such decimal when several have that many digits. `Decimal.shortest` finds the digits by
trying one digit, then two, and so on: on each decimal grid only the two neighbours of the value
can qualify. `Double.text` lays the digits out. -/

namespace Laneway

/-- The decimal `digits · 10 ^ exponent`. -/
structure Decimal where
  /-- The significant digits as one number. -/
  digits : Nat
  /-- The power of ten of the last digit. -/
  exponent : Int
deriving DecidableEq

namespace Decimal

/-- A number with zeros put after its digits. -/
def shift (n zeros : Nat) : Nat := n * Nat.pow 10 zeros

/-- A positive decimal as a quotient of natural numbers. -/
def quotient (d : Decimal) : Nat × Nat :=
  (shift d.digits d.exponent.toNat, shift 1 (-d.exponent).toNat)

/-- The ends of the interval of numbers that round to a positive double, over the denominator
    `4 · 2 ^ 1074`. The lower half is narrower where the mantissa is a power of two. -/
def interval (d : Double) : Nat × Nat :=
  let unit := 1 <<< d.binaryScale
  let below := if d.mantissa = Double.hiddenBit ∧ 1 < d.exponentField then 1 else 2
  ((4 * d.mantissa - below) * unit, (4 * d.mantissa + 2) * unit)

/-- Whether a decimal rounds to the double; the ends of the interval do when the mantissa is
    even. -/
def readsAs (d : Double) (candidate : Decimal) : Bool :=
  let (low, high) := interval d
  let (num, den) := candidate.quotient
  let scaled := num <<< 1076
  if d.mantissa % 2 = 0 then low * den ≤ scaled && scaled ≤ high * den
  else low * den < scaled && scaled < high * den

/-- The decimal grid with `count` significant digits around the double, given the position `lead`
    of its first digit: the neighbour at or below the value, and whether the one above is nearer. -/
def neighbour (d : Double) (lead : Int) (count : Nat) : Decimal × Bool :=
  let exponent := lead + 1 - count
  let (num, den) := d.quotient
  let num' := shift num (-exponent).toNat
  let den' := shift den exponent.toNat
  let below := num' / den'
  let twice := 2 * (num' % den')
  (⟨below, exponent⟩, den' < twice || (twice == den' && below % 2 == 1))

/-- The candidate with `count` digits, if one of the two neighbours reads as the double. -/
def candidate? (d : Double) (lead : Int) (count : Nat) : Option Decimal :=
  let (below, aboveNearer) := neighbour d lead count
  let above : Decimal := ⟨below.digits + 1, below.exponent⟩
  let order := if aboveNearer then [above, below] else [below, above]
  order.find? (readsAs d)

/-- The position of the first digit of a positive quotient, searched downwards from `guess`. -/
def leadFrom (num den : Nat) : (tries : Nat) → Int → Int
  | 0, guess => guess
  | tries + 1, guess =>
    if shift den guess.toNat ≤ shift num (-guess).toNat then guess
    else leadFrom num den tries (guess - 1)

/-- Drops trailing zeros of the digits. -/
def trim : (budget : Nat) → Decimal → Decimal
  | 0, d => d
  | budget + 1, d =>
    if d.digits % 10 = 0 ∧ d.digits ≠ 0 then trim budget ⟨d.digits / 10, d.exponent + 1⟩ else d

/-- The shortest decimal that reads as a positive finite double. Seventeen digits always do. -/
def shortest (d : Double) : Decimal :=
  let (num, den) := d.quotient
  let guess : Int := ((num.log2 : Int) - (den.log2 : Int) + 1) * 30103 / 100000 + 1
  let lead := leadFrom num den 4 guess
  let found := (List.range 17).findSome? fun n => candidate? d lead (n + 1)
  trim 20 (found.getD (neighbour d lead 17).1)

end Decimal

namespace Double

/-- The digits of a natural number. -/
def digitText (n : Nat) : String := String.ofList (Nat.toDigits 10 n)

def zeros (count : Nat) : String := String.ofList (List.replicate count '0')

/-- How a decimal is laid out. With `point` the number of digits before the decimal point, the
    positional form is used for `-5 < point ≤ 16`; outside it, one digit stands before the point
    and the exponent follows with its sign. A whole number keeps one zero after the point. -/
def layout (d : Decimal) : String :=
  let digits := digitText d.digits
  let point : Int := digits.length + d.exponent
  if 0 ≤ d.exponent && point ≤ 16 then digits ++ zeros d.exponent.toNat ++ ".0"
  else if 0 < point && point ≤ 16 then
    String.ofList (digits.toList.take point.toNat) ++ "."
      ++ String.ofList (digits.toList.drop point.toNat)
  else if -5 < point && point ≤ 0 then "0." ++ zeros (-point).toNat ++ digits
  else
    let mantissa := match digits.toList with
      | first :: second :: more => String.ofList (first :: '.' :: second :: more)
      | short => String.ofList short
    let scale := point - 1
    mantissa ++ (if scale < 0 then "e-" else "e+") ++ digitText scale.natAbs

def text (d : Double) : String :=
  let sign := if d.isNegative then "-" else ""
  if d.mantissa = 0 then sign ++ "0.0" else sign ++ layout (Decimal.shortest d)

end Double

end Laneway
