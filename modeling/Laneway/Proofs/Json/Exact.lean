import Laneway.Proofs.Decimal.Shortest
import Laneway.Proofs.Json.Reading

set_option autoImplicit false

/-! # Every value reads back exactly

`Json.readExact` reads JSON as it is defined, without a limit to nesting, and rounds every literal
that is no whole number once, to the nearest double. What a value is written as reads back as that
value, whatever it is: the shortest decimal of a double lies in the interval of numbers that round
to the double, and the four ways to lay it out all keep its value. -/

namespace Laneway.Json

/-! ## Number literals -/

/-- The number that digits spell. -/
def spelled (digits : List Nat) : Nat := digits.foldl (fun n digit => n * 10 + digit) 0

/-- Reads the digits after a point, if there is one. -/
def readPointed : Reader (Option (List Nat))
  | 0x2E :: rest =>
    match spanDigits rest with
    | ([], []) => .error .truncated
    | ([], _ :: _) => .error .malformed
    | (digits, rest) => .ok (some digits, rest)
  | rest => .ok (none, rest)

/-- Reads a power of ten after its letter, if there is one. -/
def readPower : Reader (Option Int)
  | [] => .ok (none, [])
  | b :: rest =>
    if b = 0x65 ∨ b = 0x45 then
      let (down, rest) := match rest with
        | 0x2B :: rest => (false, rest)
        | 0x2D :: rest => (true, rest)
        | rest => (false, rest)
      match spanDigits rest with
      | ([], []) => .error .truncated
      | ([], _ :: _) => .error .malformed
      | (digits, rest) => .ok (some (if down then -spelled digits else spelled digits), rest)
    else .ok (none, b :: rest)

/-- The double nearest to a decimal, with its sign. -/
def nearestReal (negative : Bool) (decimal : Decimal) : Except ReadError Json :=
  let d := Double.ofQuotient decimal.quotient.1 decimal.quotient.2
  if d.isFinite then .ok (ofDouble (if negative then d.negate else d)) else .error .malformed

/-- The value of a literal without point and power: a whole number where one can hold it, but for a
    negative zero. -/
def exactWhole (negative : Bool) (n : Nat) : Except ReadError Json :=
  if negative ∧ n = 0 then nearestReal negative ⟨n, 0⟩
  else match ofInt? (if negative then -n else n) with
    | some value => .ok value
    | none => nearestReal negative ⟨n, 0⟩

/-- The value of a literal by its digits and power. -/
def exactValue (negative : Bool) (whole : List Nat) (pointed : Option (List Nat))
    (power : Option Int) : Except ReadError Json :=
  if pointed = none ∧ power = none then exactWhole negative (spelled whole)
  else nearestReal negative
    ⟨spelled (whole ++ pointed.getD []), power.getD 0 - (pointed.getD []).length⟩

/-- Reads what follows the sign of a number. -/
def exactNumber (negative : Bool) : Reader Json := fun input =>
  match spanDigits input with
  | ([], []) => .error .truncated
  | ([], _ :: _) => .error .malformed
  | (first :: more, rest) =>
    if first = 0 ∧ more ≠ [] then .error .malformed
    else do
      let (pointed, rest) ← readPointed rest
      let (power, rest) ← readPower rest
      (exactValue negative (first :: more) pointed power).map (·, rest)

/-- Reads a whole text as one value, each literal rounded once. No text nests deeper than it is
    long. -/
def readExact (bytes : List UInt8) : Except ReadError Json := do
  let (value, rest) ← readValueWith exactNumber bytes.length bytes
  finish value rest

/-! ## Literals by their parts -/

/-- A literal: digits, those after a point, and those of a power of ten that is negative or not. -/
structure Literal where
  whole : List Char
  pointed : Option (List Char)
  power : Option (Bool × List Char)
  whole_digits : ∀ c ∈ whole, c.isDigit = true
  /-- There are digits, and no zero leads others. -/
  whole_leads : ∃ first more, whole = first :: more ∧ (first = '0' → more = [])
  pointed_digits : ∀ digits ∈ pointed, digits ≠ [] ∧ ∀ c ∈ digits, c.isDigit = true
  power_digits : ∀ p ∈ power, p.2 ≠ [] ∧ ∀ c ∈ p.2, c.isDigit = true

namespace Literal

def pointedChars : Option (List Char) → List Char
  | none => []
  | some digits => '.' :: digits

def powerChars : Option (Bool × List Char) → List Char
  | none => []
  | some (down, digits) => 'e' :: (if down then '-' else '+') :: digits

def chars (l : Literal) : List Char := l.whole ++ (pointedChars l.pointed ++ powerChars l.power)

/-- The number that digits spell. -/
def value (digits : List Char) : Nat := Nat.ofDigitChars 10 digits 0

def powerValue (power : Bool × List Char) : Int :=
  if power.1 then -value power.2 else value power.2

/-- The decimal it stands for. -/
def decimal (l : Literal) : Decimal :=
  ⟨value (l.whole ++ l.pointed.getD []),
    (l.power.map powerValue).getD 0 - (l.pointed.getD []).length⟩

theorem spelled_map (digits : List Char) :
    spelled (digits.map fun c => c.toNat - 48) = value digits := by
  have step (n : Nat) : (digits.map fun c => c.toNat - 48).foldl (fun n d => n * 10 + d) n =
      Nat.ofDigitChars 10 digits n := by
    induction digits generalizing n with
    | nil => rfl
    | cons c digits ih =>
      rw [List.map_cons, List.foldl_cons, ih, Nat.ofDigitChars_cons, Nat.mul_comm]
      rfl
  exact step 0

/-- What is left does not go on with digits. -/
def Ends (rest : List UInt8) : Prop := ∀ b ∈ rest.head?, isDigit b = false

theorem ends_of_closes {rest : List UInt8} (closes : Closes rest) : Ends rest := by
  intro b hb
  rcases closes b hb with rfl | rfl | rfl <;> rfl

/-- Digits are read up to their end, and there are some. -/
theorem spanDigits_chars {digits : List Char} (some : digits ≠ [])
    (all : ∀ c ∈ digits, c.isDigit = true) {rest : List UInt8} (ends : Ends rest) :
    ∃ first more, spanDigits (encoded digits ++ rest) = (first :: more, rest) ∧
      first :: more = digits.map fun c => c.toNat - 48 := by
  cases digits with
  | nil => exact absurd rfl some
  | cons c digits => exact ⟨_, _, spanDigits_append all ends, rfl⟩

theorem encoded_powerChars (power : Bool × List Char) (rest : List UInt8) :
    encoded (powerChars (some power)) ++ rest =
      0x65 :: (if power.1 then 0x2D else 0x2B) :: (encoded power.2 ++ rest) := by
  obtain ⟨down, digits⟩ := power
  cases down <;> rfl

theorem readPower_chars {power : Option (Bool × List Char)}
    (digits : ∀ p ∈ power, p.2 ≠ [] ∧ ∀ c ∈ p.2, c.isDigit = true) {rest : List UInt8}
    (closes : Closes rest) :
    readPower (encoded (powerChars power) ++ rest) = .ok (power.map powerValue, rest) := by
  cases power with
  | none =>
    cases rest with
    | nil => rfl
    | cons b rest => rcases closes b rfl with rfl | rfl | rfl <;> rfl
  | some power =>
    obtain ⟨some, all⟩ := digits power rfl
    obtain ⟨first, more, span, values⟩ := spanDigits_chars some all (ends_of_closes closes)
    obtain ⟨down, written⟩ := power
    rw [encoded_powerChars]
    have value : spelled (first :: more) = value written := by rw [values, spelled_map]
    cases down with
    | true => simp [readPower, span, value, powerValue]
    | false => simp [readPower, span, value, powerValue]

theorem ends_power (power : Option (Bool × List Char)) {rest : List UInt8} (closes : Closes rest) :
    Ends (encoded (powerChars power) ++ rest) ∧
      (encoded (powerChars power) ++ rest).head? ≠ some 0x2E := by
  cases power with
  | none =>
    refine ⟨ends_of_closes closes, ?_⟩
    intro point
    rcases closes _ point with h | h | h <;> exact absurd h (by decide)
  | some power =>
    rw [encoded_powerChars]
    exact ⟨fun b hb => by cases hb; rfl, by simp⟩

theorem readPointed_chars {pointed : Option (List Char)}
    (digits : ∀ d ∈ pointed, d ≠ [] ∧ ∀ c ∈ d, c.isDigit = true) {rest : List UInt8}
    (ends : Ends rest) (noPoint : rest.head? ≠ some 0x2E) :
    readPointed (encoded (pointedChars pointed) ++ rest) =
      .ok (pointed.map fun d => d.map fun c => c.toNat - 48, rest) := by
  cases pointed with
  | none =>
    show readPointed rest = _
    unfold readPointed
    split
    · exact absurd rfl noPoint
    · rfl
  | some written =>
    obtain ⟨some, all⟩ := digits written rfl
    obtain ⟨first, more, span, values⟩ := spanDigits_chars some all ends
    show readPointed (0x2E :: (encoded written ++ rest)) = _
    simp only [readPointed, span, Option.map_some, values.symm]

theorem ends_pointed (pointed : Option (List Char)) {rest : List UInt8} (ends : Ends rest) :
    Ends (encoded (pointedChars pointed) ++ rest) := by
  cases pointed with
  | none => exact ends
  | some written =>
    show Ends (0x2E :: (encoded written ++ rest))
    intro b hb
    cases hb
    rfl

/-- A literal reads as the double nearest to its decimal, or as a whole number if it has neither
    point nor power. -/
theorem exactNumber_chars (l : Literal) (negative : Bool) {rest : List UInt8}
    (closes : Closes rest) :
    exactNumber negative (encoded l.chars ++ rest) =
      (if l.pointed = none ∧ l.power = none then exactWhole negative (value l.whole)
        else nearestReal negative l.decimal).map (·, rest) := by
  obtain ⟨ends, noPoint⟩ := ends_power l.power closes
  have pointed := readPointed_chars l.pointed_digits ends noPoint
  have power := readPower_chars l.power_digits closes
  obtain ⟨first, more, written, alone⟩ := l.whole_leads
  have whole := spanDigits_append l.whole_digits (ends_pointed l.pointed ends)
  have zero : ¬ (first.toNat - 48 = 0 ∧ (more.map fun c => c.toNat - 48) ≠ []) := by
    rintro ⟨zero, some⟩
    have digit := toNat_of_isDigit (l.whole_digits first (by simp [written]))
    have : first = '0' := Char.toNat_inj.1 (show first.toNat = 48 by omega)
    rw [alone this] at some
    exact some rfl
  have after : (l.pointed.map fun d => d.map fun c => c.toNat - 48).getD [] =
      (l.pointed.getD []).map fun c => c.toNat - 48 := by
    cases l.pointed <;> rfl
  have values : exactValue negative (l.whole.map fun c => c.toNat - 48)
      (l.pointed.map fun d => d.map fun c => c.toNat - 48) (l.power.map powerValue) =
        if l.pointed = none ∧ l.power = none then exactWhole negative (value l.whole)
        else nearestReal negative l.decimal := by
    simp only [exactValue, Option.map_eq_none_iff, after, ← List.map_append, spelled_map,
      List.length_map]
    rfl
  rw [chars, encoded_append, encoded_append, List.append_assoc, List.append_assoc, ← values]
  rw [written, List.map_cons] at whole ⊢
  rw [exactNumber, whole]
  simp only [if_neg zero, pointed, power, bind, Except.bind]

end Literal

/-! ## The layouts of a decimal -/

/-- The decimals have the same value. -/
def SameValue (a b : Decimal) : Prop := a.quotient.1 * b.quotient.2 = b.quotient.1 * a.quotient.2

/-- The layout of a decimal is a literal with a point or a power that has its value. -/
def LaidOut (c : Decimal) (text : String) : Prop :=
  ∃ l : Literal, text = String.ofList l.chars ∧ ¬ (l.pointed = none ∧ l.power = none) ∧
    SameValue l.decimal c

/-- A positive number does not start with a zero. -/
theorem toDigits_positive {n : Nat} (positive : 0 < n) :
    ∃ first more, Nat.toDigits 10 n = first :: more ∧ first ≠ '0' := by
  obtain ⟨first, more, written, alone⟩ := toDigits_eq_cons n
  refine ⟨first, more, written, fun zero => ?_⟩
  have value := Nat.ofDigitChars_ten_toDigits (n := n)
  rw [written, zero, alone zero] at value
  have : 0 = n := value
  omega

theorem isDigit_zeros {count : Nat} {c : Char} (hc : c ∈ List.replicate count '0') :
    c.isDigit = true := by
  rw [(List.mem_replicate.1 hc).2]
  rfl

variable {c : Decimal}

theorem laidOut_of_eq {l : Literal} {text : String} (written : text = String.ofList l.chars)
    (real : ¬ (l.pointed = none ∧ l.power = none)) (digits : l.decimal.digits = c.digits)
    (exponent : l.decimal.exponent = c.exponent) : LaidOut c text := by
  refine ⟨l, written, real, ?_⟩
  rw [SameValue, Decimal.quotient, Decimal.quotient, digits, exponent]

/-- A whole number with one zero after the point. -/
theorem laidOut_whole (positive : 0 < c.digits) (up : 0 ≤ c.exponent) :
    LaidOut c (Double.digitText c.digits ++ Double.zeros c.exponent.toNat ++ ".0") := by
  obtain ⟨first, more, written, nonzero⟩ := toDigits_positive positive
  refine ⟨{
    whole := Nat.toDigits 10 c.digits ++ List.replicate c.exponent.toNat '0'
    pointed := some ['0']
    power := none
    whole_digits := by
      intro d hd
      exact (List.mem_append.1 hd).elim isDigit_of_mem_toDigits isDigit_zeros
    whole_leads := ⟨first, _, by rw [written, List.cons_append], fun h => absurd h nonzero⟩
    pointed_digits := by
      rintro _ ⟨⟩
      exact ⟨by simp, by simp⟩
    power_digits := by simp }, ?_, by simp, ?_⟩
  · have point : ".0" = String.ofList ['.', '0'] := rfl
    rw [Double.digitText, Double.zeros, point, ← String.ofList_append, ← String.ofList_append]
    rfl
  · have down : (-c.exponent).toNat = 0 := by omega
    have value : Literal.value (Nat.toDigits 10 c.digits ++
        List.replicate c.exponent.toNat '0' ++ ['0']) = c.digits * 10 ^ c.exponent.toNat * 10 := by
      rw [Literal.value, Nat.ofDigitChars_append, Nat.ofDigitChars_append,
        Nat.ofDigitChars_ten_toDigits, Nat.ofDigitChars_replicate_zero, Nat.ofDigitChars_cons,
        Nat.ofDigitChars_nil, Nat.mul_comm c.digits, Nat.mul_comm _ 10]
      rfl
    show Decimal.shift (Literal.value (_ ++ _)) 0 * Decimal.shift 1 (-c.exponent).toNat =
      Decimal.shift c.digits c.exponent.toNat * Decimal.shift 1 1
    rw [Option.getD_some, value, down]
    simp [Decimal.shift_eq]

/-- A point among the digits. -/
theorem laidOut_inside (positive : 0 < c.digits) {point : Nat} (started : 0 < point)
    (inside : (point : Int) = (Nat.toDigits 10 c.digits).length + c.exponent)
    (down : c.exponent < 0) :
    LaidOut c (String.ofList ((Nat.toDigits 10 c.digits).take point) ++ "." ++
      String.ofList ((Nat.toDigits 10 c.digits).drop point)) := by
  obtain ⟨first, more, written, nonzero⟩ := toDigits_positive positive
  have whole : (Nat.toDigits 10 c.digits).take point = first :: more.take (point - 1) := by
    rw [written, List.take_cons started]
  have remain : (Nat.toDigits 10 c.digits).drop point ≠ [] := by
    rw [ne_eq, List.drop_eq_nil_iff]
    omega
  refine laidOut_of_eq (l := {
    whole := (Nat.toDigits 10 c.digits).take point
    pointed := some ((Nat.toDigits 10 c.digits).drop point)
    power := none
    whole_digits := fun d hd => isDigit_of_mem_toDigits (List.mem_of_mem_take hd)
    whole_leads := ⟨first, _, whole, fun h => absurd h nonzero⟩
    pointed_digits := by
      rintro _ ⟨⟩
      exact ⟨remain, fun d hd => isDigit_of_mem_toDigits (List.mem_of_mem_drop hd)⟩
    power_digits := by simp }) ?_ (by simp) ?_ ?_
  · have dot : "." = String.ofList ['.'] := rfl
    rw [dot, ← String.ofList_append, ← String.ofList_append, List.append_assoc]
    simp [Literal.chars, Literal.pointedChars, Literal.powerChars]
  · show Literal.value (_ ++ _) = _
    rw [Option.getD_some, List.take_append_drop, Literal.value, Nat.ofDigitChars_ten_toDigits]
  · show 0 - (((some ((Nat.toDigits 10 c.digits).drop point)).getD []).length : Int) = _
    rw [Option.getD_some, List.length_drop]
    omega

/-- Zeros between the point and the digits. -/
theorem laidOut_fraction {zeros : Nat}
    (before : -(zeros : Int) = (Nat.toDigits 10 c.digits).length + c.exponent) :
    LaidOut c ("0." ++ Double.zeros zeros ++ Double.digitText c.digits) := by
  have some_digits : List.replicate zeros '0' ++ Nat.toDigits 10 c.digits ≠ [] := by
    simp [Nat.toDigits_ne_nil]
  refine laidOut_of_eq (l := {
    whole := ['0']
    pointed := some (List.replicate zeros '0' ++ Nat.toDigits 10 c.digits)
    power := none
    whole_digits := by simp
    whole_leads := ⟨'0', [], rfl, fun _ => rfl⟩
    pointed_digits := by
      rintro _ ⟨⟩
      exact ⟨some_digits, fun d hd =>
        (List.mem_append.1 hd).elim isDigit_zeros isDigit_of_mem_toDigits⟩
    power_digits := by simp }) ?_ (by simp) ?_ ?_
  · have point : "0." = String.ofList ['0', '.'] := rfl
    rw [Double.digitText, Double.zeros, point, ← String.ofList_append, ← String.ofList_append]
    simp [Literal.chars, Literal.pointedChars, Literal.powerChars]
  · show Nat.ofDigitChars 10 ('0' :: (List.replicate zeros '0' ++ Nat.toDigits 10 c.digits)) 0 = _
    rw [Nat.ofDigitChars_cons, Nat.ofDigitChars_append, Nat.ofDigitChars_replicate_zero]
    simp
  · show 0 - (((some (List.replicate zeros '0' ++ Nat.toDigits 10 c.digits)).getD []).length : Int) =
      _
    rw [Option.getD_some, List.length_append, List.length_replicate]
    omega

/-- Digits with a point after the first, if there are more. -/
def pointed : List Char → String
  | first :: second :: more => String.ofList (first :: '.' :: second :: more)
  | short => String.ofList short

/-- One digit before the point, and a power of ten. -/
theorem laidOut_scientific (positive : 0 < c.digits) {scale : Int}
    (scaled : scale + 1 = (Nat.toDigits 10 c.digits).length + c.exponent) :
    LaidOut c (pointed (Nat.toDigits 10 c.digits) ++ (if scale < 0 then "e-" else "e+") ++
      Double.digitText scale.natAbs) := by
  obtain ⟨first, more, written, nonzero⟩ := toDigits_positive positive
  have digits : ∀ d ∈ first :: more, d.isDigit = true := by
    intro d hd
    exact isDigit_of_mem_toDigits (written ▸ hd)
  have value : Nat.ofDigitChars 10 (first :: more) 0 = c.digits := by
    rw [← written, Nat.ofDigitChars_ten_toDigits]
  have power : Literal.powerValue (decide (scale < 0), Nat.toDigits 10 scale.natAbs) = scale := by
    simp only [Literal.powerValue, Literal.value, Nat.ofDigitChars_ten_toDigits, decide_eq_true_eq]
    split <;> omega
  have letter : (if scale < 0 then "e-" else "e+") ++ Double.digitText scale.natAbs =
      String.ofList
        (Literal.powerChars (some (decide (scale < 0), Nat.toDigits 10 scale.natAbs))) := by
    have minus : "e-" = String.ofList ['e', '-'] := rfl
    have plus : "e+" = String.ofList ['e', '+'] := rfl
    by_cases down : scale < 0
    · rw [if_pos down, minus, Double.digitText, ← String.ofList_append, decide_eq_true down]
      rfl
    · rw [if_neg down, plus, Double.digitText, ← String.ofList_append, decide_eq_false down]
      rfl
  rw [written, List.length_cons] at scaled
  have power_digits : ∀ p ∈ some (decide (scale < 0), Nat.toDigits 10 scale.natAbs),
      p.2 ≠ [] ∧ ∀ d ∈ p.2, d.isDigit = true := by
    rintro _ ⟨⟩
    exact ⟨Nat.toDigits_ne_nil, fun d hd => isDigit_of_mem_toDigits hd⟩
  rw [written, String.append_assoc, letter]
  cases more with
  | nil =>
    refine laidOut_of_eq (l := {
      whole := [first]
      pointed := none
      power := some (decide (scale < 0), Nat.toDigits 10 scale.natAbs)
      whole_digits := digits
      whole_leads := ⟨first, [], rfl, fun _ => rfl⟩
      pointed_digits := by simp
      power_digits }) ?_ (by simp) value ?_
    · show String.ofList [first] ++ _ = _
      rw [← String.ofList_append]
      rfl
    · show Literal.powerValue _ - (([] : List Char).length : Int) = _
      rw [List.length_nil] at scaled ⊢
      rw [power]
      omega
  | cons second more =>
    refine laidOut_of_eq (l := {
      whole := [first]
      pointed := some (second :: more)
      power := some (decide (scale < 0), Nat.toDigits 10 scale.natAbs)
      whole_digits := by simpa using digits first List.mem_cons_self
      whole_leads := ⟨first, [], rfl, fun _ => rfl⟩
      pointed_digits := by
        rintro _ ⟨⟩
        exact ⟨by simp, fun d hd => digits d (List.mem_cons_of_mem _ hd)⟩
      power_digits }) ?_ (by simp) value ?_
    · rw [pointed, ← String.ofList_append]
      rfl
    · show Literal.powerValue _ - ((second :: more).length : Int) = _
      rw [power]
      omega

theorem layout_laidOut (positive : 0 < c.digits) : LaidOut c (Double.layout c) := by
  have length : (Double.digitText c.digits).length = (Nat.toDigits 10 c.digits).length :=
    String.length_ofList
  have toList : (Double.digitText c.digits).toList = Nat.toDigits 10 c.digits :=
    String.toList_ofList
  simp only [Double.layout, length, toList, Bool.and_eq_true, decide_eq_true_eq]
  split
  · next up => exact laidOut_whole positive up.1
  · split
    · next inside => exact laidOut_inside positive (by omega) (by omega) (by omega)
    · split
      · next before => exact laidOut_fraction (by omega)
      · exact laidOut_scientific positive (by omega)

/-! ## Doubles -/

/-- The double nearest to a decimal of its interval is the double without its sign. -/
theorem ofQuotient_of_rounds {d : Double} (finite : d.isFinite = true) (positive : 0 < d.mantissa)
    {c : Decimal} (rounds : d.Rounds c.quotient.1 c.quotient.2) :
    Double.ofQuotient c.quotient.1 c.quotient.2 = ⟨UInt64.ofNat d.magnitude⟩ := by
  rw [Double.ofQuotient, rounds.nearestMagnitude finite positive (Decimal.denominator_pos c)]

theorem isFinite_magnitude {d : Double} (finite : d.isFinite = true) :
    (⟨UInt64.ofNat d.magnitude⟩ : Double).isFinite = true := by
  rw [Double.isFinite, decide_eq_true_eq] at finite ⊢
  rw [Double.magnitude, Double.toNat_magnitude, Nat.mod_eq_of_lt d.magnitude_lt]
  exact finite

/-- A decimal of the interval of a double reads as the double, with its sign. -/
theorem nearestReal_of_rounds (r : Real) (positive : 0 < r.val.mantissa) {c : Decimal}
    (rounds : r.val.Rounds c.quotient.1 c.quotient.2) :
    nearestReal r.val.isNegative c = .ok (.num (.real r)) := by
  simp only [nearestReal, ofQuotient_of_rounds r.finite positive rounds,
    isFinite_magnitude r.finite, if_true, Double.signed_magnitude]
  rw [ofDouble, dif_pos r.finite]

/-- A zero reads back with its sign. -/
theorem nearestReal_zero (r : Real) (zero : r.val.mantissa = 0) {c : Decimal}
    (digits : c.digits = 0) : nearestReal r.val.isNegative c = .ok (.num (.real r)) := by
  have magnitude : r.val.magnitude = 0 := by
    have scale : r.val.binaryScale = 0 := by
      rcases Nat.eq_zero_or_pos r.val.binaryScale with none | scaled
      · exact none
      · have whole := Double.hiddenBit_le_mantissa scaled
        rw [zero] at whole
        exact absurd whole (by decide)
    rw [Double.magnitude_eq, zero, scale]
    rfl
  have nearest : Double.ofQuotient c.quotient.1 c.quotient.2 = ⟨UInt64.ofNat r.val.magnitude⟩ := by
    have numerator : c.quotient.1 = 0 := by
      show Decimal.shift c.digits _ = 0
      rw [digits, Decimal.shift_eq, Nat.zero_mul]
    rw [Double.ofQuotient, numerator, magnitude]
    rfl
  simp only [nearestReal, nearest, isFinite_magnitude r.finite, if_true, Double.signed_magnitude]
  rw [ofDouble, dif_pos r.finite]

/-! ## Numbers -/

/-- A literal with a sign before it is the text of the number that it reads as. -/
theorem readBy_of_literal {n : Number} (negative : Bool) (l : Literal)
    (written : n.text = (if negative then "-" else "") ++ String.ofList l.chars)
    (value : (if l.pointed = none ∧ l.power = none then exactWhole negative (Literal.value l.whole)
      else nearestReal negative l.decimal) = .ok (.num n)) : n.ReadBy exactNumber := by
  obtain ⟨first, more, whole, -⟩ := l.whole_leads
  have chars : l.chars =
      first :: (more ++ (Literal.pointedChars l.pointed ++ Literal.powerChars l.power)) := by
    rw [Literal.chars, whole, List.cons_append]
  refine Number.readBy_of_chars (l.whole_digits first (by simp [whole])) (chars ▸ written)
    fun rest closes => ?_
  rw [← chars, l.exactNumber_chars negative closes, value]
  rfl

theorem readBy_exactNumber_whole (n : Whole) : (Number.whole n).ReadBy exactNumber := by
  obtain ⟨first, more, digits, alone⟩ := toDigits_eq_cons n.val.natAbs
  refine readBy_of_literal (decide (n.val < 0)) {
    whole := Nat.toDigits 10 n.val.natAbs
    pointed := none
    power := none
    whole_digits := fun c hc => isDigit_of_mem_toDigits hc
    whole_leads := ⟨first, more, digits, alone⟩
    pointed_digits := by simp
    power_digits := by simp } ?_ ?_
  · rw [Number.text_whole]
    simp [Literal.chars, Literal.pointedChars, Literal.powerChars]
  · rw [if_pos ⟨rfl, rfl⟩, Literal.value, Nat.ofDigitChars_ten_toDigits, exactWhole,
      if_neg n.signed.2, n.signed.1, ofInt?_val]

/-- A double reads back from its text. -/
theorem readBy_exactNumber_real (r : Real) : (Number.real r).ReadBy exactNumber := by
  have sign : (Number.real r).text = (if r.val.isNegative then "-" else "") ++
      if r.val.mantissa = 0 then "0.0" else Double.layout (Decimal.shortest r.val) := by
    rw [Number.text, Double.text]
    split <;> rfl
  by_cases zero : r.val.mantissa = 0
  · rw [if_pos zero] at sign
    refine readBy_of_literal _ {
      whole := ['0']
      pointed := some ['0']
      power := none
      whole_digits := by simp
      whole_leads := ⟨'0', [], rfl, fun _ => rfl⟩
      pointed_digits := by
        rintro _ ⟨⟩
        exact ⟨by simp, by simp⟩
      power_digits := by simp } sign ?_
    rw [if_neg (by simp)]
    exact nearestReal_zero r zero rfl
  · rw [if_neg zero] at sign
    have positive : 0 < r.val.mantissa := Nat.pos_of_ne_zero zero
    have rounds := Decimal.rounds_shortest r.finite positive
    have digits : 0 < (Decimal.shortest r.val).digits :=
      Nat.pos_of_mul_pos_right (rounds.numerator_pos positive (Decimal.denominator_pos _))
    obtain ⟨l, layout, real, same⟩ := layout_laidOut digits
    rw [layout] at sign
    refine readBy_of_literal _ l sign ?_
    rw [if_neg real]
    exact nearestReal_of_rounds r positive
      (rounds.congr same.symm (Decimal.denominator_pos _) (Decimal.denominator_pos _))

theorem readBy_exactNumber : (n : Number) → n.ReadBy exactNumber
  | .whole n => readBy_exactNumber_whole n
  | .real r => readBy_exactNumber_real r

/-! ## Values -/

/-- A value is written in more bytes than it nests arrays and objects. -/
theorem readable_length : (value : Json) → Readable exactNumber value.bytes.length value
  | .null => .null
  | .bool b => .bool b
  | .num n => .num (readBy_exactNumber n)
  | .str s => .str s
  | .arr items => by
    have length := congrArg List.length (bytes_arr items [])
    rw [List.append_nil, List.length_cons] at length
    rw [length]
    exact .arr fun item mem => (readable_length item).mono (length_le_between mem)
  | .obj members => by
    have length := congrArg List.length (bytes_obj members [])
    rw [List.append_nil, List.length_cons] at length
    rw [length]
    refine .obj fun m mem => (readable_length m.2).mono ?_
    have inside : m.2.bytes.length ≤ (memberBytes m).length := by
      simp only [memberBytes, List.length_append, List.length_cons]
      omega
    exact Nat.le_trans inside (length_le_between mem)
termination_by value => sizeOf value
decreasing_by
  · have := List.sizeOf_lt_of_mem mem
    simp only [arr.sizeOf_spec]
    omega
  · have inside := List.sizeOf_lt_of_mem mem
    have member : sizeOf m.2 < sizeOf m := by
      obtain ⟨key, value⟩ := m
      simp only [Prod.mk.sizeOf_spec]
      omega
    simp only [obj.sizeOf_spec]
    omega

/-- Every value reads back exactly from what it is written as. -/
theorem readExact_bytes (value : Json) : readExact value.bytes = .ok value := by
  have read := (readable_length value).value_bytes closes_nil
  rw [List.append_nil] at read
  rw [readExact, read]
  rfl

end Laneway.Json
