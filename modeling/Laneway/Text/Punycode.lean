set_option autoImplicit false

/-! # Punycode

A label with characters outside ASCII is written with ASCII alone: its ASCII characters first, then
the others as differences, from the smallest code point to the greatest, each in digits of base 36
whose weights adapt to what came before. -/

namespace Laneway

namespace Punycode

/-- The character of a digit below 36. -/
def digit (n : Nat) : Char := if n < 26 then Char.ofNat (97 + n) else Char.ofNat (22 + n)

/-- How much the weights grow is fitted to the last difference. `count` is the number of characters
    placed so far. -/
def adapt (delta count : Nat) (first : Bool) : Nat :=
  let delta := if first then delta / 700 else delta / 2
  scale (delta + delta / count) 0
where
  /-- Divides until the rest fits one more digit. -/
  scale (delta k : Nat) : Nat :=
    if h : 455 < delta then scale (delta / 35) (k + 36) else k + 36 * delta / (delta + 38)
  termination_by delta
  decreasing_by omega

/-- The threshold of a digit at weight `k`. -/
def threshold (k bias : Nat) : Nat :=
  if k ≤ bias then 1 else if bias + 26 ≤ k then 26 else k - bias

theorem threshold_lt (k bias : Nat) : 1 ≤ threshold k bias ∧ threshold k bias ≤ 26 := by
  unfold threshold
  split
  · omega
  · split <;> omega

/-- A difference in digits of varying weight. -/
def difference (q k bias : Nat) : List Char :=
  let t := threshold k bias
  if h : t ≤ q then
    digit (t + (q - t) % (36 - t)) :: difference ((q - t) / (36 - t)) (k + 36) bias
  else [digit q]
termination_by q
decreasing_by
  have := threshold_lt k bias
  have hle := Nat.div_le_self (q - threshold k bias) (36 - threshold k bias)
  omega

/-- What the encoder carries from character to character. -/
structure Progress where
  delta : Nat
  bias : Nat
  /-- How many characters are placed. -/
  placed : Nat
  written : List Char

/-- One pass over the label for the code point `n`. `start` is the number of ASCII characters. -/
def pass (n start : Nat) (label : List Char) (progress : Progress) : Progress :=
  label.foldl (fun p c =>
    if c.toNat < n then { p with delta := p.delta + 1 }
    else if c.toNat = n then
      { delta := 0
        bias := adapt p.delta (p.placed + 1) (p.placed = start)
        placed := p.placed + 1
        written := (difference p.delta 36 p.bias).reverse ++ p.written }
    else p) progress

/-- Places the characters of the code points in `points`, which ascend; `n` is the first code point
    not yet looked at. -/
def places (start : Nat) (label : List Char) : (n : Nat) → List Nat → Progress → Progress
  | _, [], p => p
  | n, m :: rest, p =>
    let p := pass m start label { p with delta := p.delta + (m - n) * (p.placed + 1) }
    places start label (m + 1) rest { p with delta := p.delta + 1 }

/-- The code points past ASCII in ascending order, each once. -/
def points (label : List Char) : List Nat :=
  (((label.map Char.toNat).filter (0x80 ≤ ·)).mergeSort (· ≤ ·)).eraseDups

/-- The ASCII form of a label. -/
def encode (label : List Char) : List Char :=
  let basic := label.filter (·.toNat < 0x80)
  let start := if basic.isEmpty then [] else '-' :: basic.reverse
  (places basic.length label 0x80 (points label) ⟨0, 72, basic.length, start⟩).written.reverse

end Punycode

end Laneway
