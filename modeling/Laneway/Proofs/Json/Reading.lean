import Laneway.Json.Printer
import Laneway.Json.Reader

set_option autoImplicit false

/-! # Written values read back

What a value is written as reads as that value again, whatever closes or follows it. Strings do
because an escape stands for one character and every other byte for itself, whole numbers because
their digits fit into 64 bits. Two things are left to the value: that it nests no deeper than the
reader goes, and that it holds no doubles, which a reader that rounds more than once may miss. -/

namespace Laneway.Json

/-! ## Bytes of characters -/

/-- The bytes of characters one after the other. -/
def encoded (chars : List Char) : List UInt8 := chars.flatMap String.utf8EncodeChar

@[simp] theorem encoded_nil : encoded [] = [] := rfl

@[simp] theorem encoded_append (first second : List Char) :
    encoded (first ++ second) = encoded first ++ encoded second := List.flatMap_append

theorem encoded_cons (c : Char) (chars : List Char) :
    encoded (c :: chars) = String.utf8EncodeChar c ++ encoded chars := rfl

theorem utf8_ofList (chars : List Char) : utf8 (String.ofList chars) = encoded chars := by
  simp [utf8, List.utf8Encode, encoded]

theorem utf8EncodeChar_ascii {c : Char} (ascii : c.toNat < 0x80) :
    String.utf8EncodeChar c = [UInt8.ofNat c.toNat] := by
  have narrow : c.val.toNat ≤ 127 := Nat.le_of_lt_succ ascii
  simp only [String.utf8EncodeChar, narrow, if_true]
  rfl

theorem toNat_ofNat_ascii {c : Char} (ascii : c.toNat < 0x80) :
    (UInt8.ofNat c.toNat).toNat = c.toNat := by
  simp only [UInt8.toNat_ofNat']
  omega

/-- Every byte of a character past ASCII has its highest bit set. -/
theorem high_of_mem_utf8EncodeChar {c : Char} (wide : 0x80 ≤ c.toNat) {b : UInt8}
    (hb : b ∈ String.utf8EncodeChar c) : 0x80 ≤ b.toNat := by
  have narrow : ¬ c.val.toNat ≤ 127 := by
    have : c.toNat = c.val.toNat := rfl
    omega
  unfold String.utf8EncodeChar at hb
  simp only [narrow, if_false] at hb
  split at hb
  · simp at hb
    rcases hb with rfl | rfl <;> simp <;> omega
  · split at hb
    · simp at hb
      rcases hb with rfl | rfl | rfl <;> simp <;> omega
    · simp at hb
      rcases hb with rfl | rfl | rfl | rfl <;> simp <;> omega

/-! ## Strings -/

/-- A byte that stands for itself inside quotes. -/
def Plain (b : UInt8) : Prop := b ≠ 0x22 ∧ b ≠ 0x5C ∧ 0x20 ≤ b

/-- A character that is not escaped has plain bytes only. -/
theorem plain_of_mem_utf8EncodeChar {c : Char} (quote : c ≠ '"') (slash : c ≠ '\\')
    (visible : 0x20 ≤ c.toNat) {b : UInt8} (hb : b ∈ String.utf8EncodeChar c) : Plain b := by
  by_cases ascii : c.toNat < 0x80
  · rw [utf8EncodeChar_ascii ascii, List.mem_singleton] at hb
    subst hb
    have value := toNat_ofNat_ascii ascii
    refine ⟨fun h => quote ?_, fun h => slash ?_, ?_⟩
    · exact Char.toNat_inj.1 (value ▸ congrArg UInt8.toNat h)
    · exact Char.toNat_inj.1 (value ▸ congrArg UInt8.toNat h)
    · rw [UInt8.le_iff_toNat_le, value]
      exact visible
  · have high := high_of_mem_utf8EncodeChar (by omega) hb
    refine ⟨?_, ?_, ?_⟩
    · rintro rfl; revert high; decide
    · rintro rfl; revert high; decide
    · rw [UInt8.le_iff_toNat_le]; exact Nat.le_trans (by decide) high

/-- The escape of a control character by its two digits. -/
theorem readEscape_control {c : Char} (control : c.toNat < 0x20) (more : List UInt8) :
    readEscape (0x75 :: 0x30 :: 0x30 :: UInt8.ofNat (Hex.lower (c.toNat / 16)).toNat ::
      UInt8.ofNat (Hex.lower (c.toNat % 16)).toNat :: more) =
        .ok (String.utf8EncodeChar c, more) := by
  have zero : Hex.value? 0x30 = some 0 := by decide
  have high := Hex.value?_lower (c.toNat / 16) (by omega)
  have low := Hex.value?_lower (c.toNat % 16) (by omega)
  have unit : readUnit (0x30 :: 0x30 :: UInt8.ofNat (Hex.lower (c.toNat / 16)).toNat ::
      UInt8.ofNat (Hex.lower (c.toNat % 16)).toNat :: more) = .ok (c.toNat, more) := by
    simp only [readUnit, zero, high, low, Except.ok.injEq, Prod.mk.injEq, and_true]
    omega
  have noTrail : ¬ (0xDC00 ≤ c.toNat ∧ c.toNat ≤ 0xDFFF) := by omega
  have noLead : c.toNat < 0xD800 ∨ 0xDBFF < c.toNat := by omega
  have scalar : readScalar (0x30 :: 0x30 :: UInt8.ofNat (Hex.lower (c.toNat / 16)).toNat ::
      UInt8.ofNat (Hex.lower (c.toNat % 16)).toNat :: more) = .ok (c, more) := by
    simp only [readScalar, unit, bind, Except.bind, if_neg noTrail, if_pos noLead,
      Char.ofNat_toNat]
  rw [readEscape, if_pos rfl, scalar]
  rfl

/-- A character is written as an escape that reads as its bytes, or as plain bytes. -/
theorem encoded_escapeChar (c : Char) :
    (∃ escaped, encoded (escapeChar c) = 0x5C :: escaped ∧
      ∀ more, readEscape (escaped ++ more) = .ok (String.utf8EncodeChar c, more)) ∨
    (encoded (escapeChar c) = String.utf8EncodeChar c ∧
      ∀ b ∈ String.utf8EncodeChar c, Plain b) := by
  by_cases quote : c = '"'
  · subst quote; exact .inl ⟨_, rfl, fun more => rfl⟩
  by_cases slash : c = '\\'
  · subst slash; exact .inl ⟨_, rfl, fun more => rfl⟩
  by_cases backspace : c = '\x08'
  · subst backspace; exact .inl ⟨_, rfl, fun more => rfl⟩
  by_cases feed : c = '\x0c'
  · subst feed; exact .inl ⟨_, rfl, fun more => rfl⟩
  by_cases line : c = '\n'
  · subst line; exact .inl ⟨_, rfl, fun more => rfl⟩
  by_cases carriage : c = '\x0d'
  · subst carriage; exact .inl ⟨_, rfl, fun more => rfl⟩
  by_cases tab : c = '\t'
  · subst tab; exact .inl ⟨_, rfl, fun more => rfl⟩
  have other : escapeChar c = if c.toNat < 0x20 then
      ['\\', 'u', '0', '0', Hex.lower (c.toNat / 16), Hex.lower (c.toNat % 16)] else [c] := by
    simp only [escapeChar, quote, slash, backspace, feed, line, carriage, tab, if_false]
  by_cases control : c.toNat < 0x20
  · have digit : ∀ n < 16, (Hex.lower n).toNat < 0x80 := by decide
    refine .inl ⟨0x75 :: 0x30 :: 0x30 :: UInt8.ofNat (Hex.lower (c.toNat / 16)).toNat ::
      UInt8.ofNat (Hex.lower (c.toNat % 16)).toNat :: [], ?_, readEscape_control control⟩
    rw [other, if_pos control]
    simp only [encoded, List.flatMap_cons, List.flatMap_nil,
      utf8EncodeChar_ascii (digit (c.toNat / 16) (by omega)),
      utf8EncodeChar_ascii (digit (c.toNat % 16) (by omega))]
    rfl
  · refine .inr ⟨?_, fun b => plain_of_mem_utf8EncodeChar quote slash (by omega)⟩
    rw [other, if_neg control, encoded_cons, encoded_nil, List.append_nil]

theorem readContents_plain {bytes : List UInt8} (plain : ∀ b ∈ bytes, Plain b) (budget : Nat)
    (read more : List UInt8) :
    readContents (budget + bytes.length) read (bytes ++ more) =
      readContents budget (bytes.reverse ++ read) more := by
  induction bytes generalizing read with
  | nil => rfl
  | cons b rest ih =>
    obtain ⟨noQuote, noSlash, visible⟩ := plain b List.mem_cons_self
    have low : ¬ b < 0x20 := UInt8.not_lt.2 visible
    rw [List.length_cons, ← Nat.add_assoc, List.cons_append, readContents, if_neg noQuote,
      if_neg noSlash, if_neg low, ih (fun b hb => plain b (List.mem_cons_of_mem _ hb))]
    simp

/-- Reading one written character takes its bytes, and no more rounds than it has. -/
theorem readContents_escapeChar (c : Char) {budget : Nat} (read : List UInt8) {more : List UInt8}
    (enough : (encoded (escapeChar c) ++ more).length < budget) :
    ∃ left, more.length < left ∧
      readContents budget read (encoded (escapeChar c) ++ more) =
        readContents left ((String.utf8EncodeChar c).reverse ++ read) more := by
  rcases encoded_escapeChar c with ⟨escaped, written, escape⟩ | ⟨itself, plain⟩
  · rw [written] at enough ⊢
    simp only [List.cons_append, List.length_cons, List.length_append] at enough
    refine ⟨budget - 1, by omega, ?_⟩
    obtain ⟨left, rfl⟩ : ∃ left, budget = left + 1 := ⟨budget - 1, by omega⟩
    simp [readContents, escape]
  · rw [itself] at enough ⊢
    rw [List.length_append] at enough
    refine ⟨budget - (String.utf8EncodeChar c).length, by omega, ?_⟩
    rw [← readContents_plain plain, Nat.sub_add_cancel (by omega)]

theorem readContents_closed (chars : List Char) {budget : Nat} (read rest : List UInt8)
    (enough : (encoded (chars.flatMap escapeChar) ++ 0x22 :: rest).length < budget)
    {text : String} (spelled : Utf8.text? (read.reverse ++ encoded chars) = some text) :
    readContents budget read (encoded (chars.flatMap escapeChar) ++ 0x22 :: rest) =
      .ok (text, rest) := by
  induction chars generalizing budget read with
  | nil =>
    obtain ⟨left, rfl⟩ : ∃ left, budget = left + 1 := ⟨budget - 1, by omega⟩
    have spelled : Utf8.text? read.reverse = some text := by simpa using spelled
    simp [readContents, spelled]
  | cons c chars ih =>
    rw [List.flatMap_cons, encoded_append, List.append_assoc] at enough ⊢
    obtain ⟨left, more, step⟩ := readContents_escapeChar c read enough
    rw [step]
    exact ih _ more (by simpa [encoded_cons] using spelled)

theorem utf8_quote (s : String) :
    utf8 (quote s) = 0x22 :: (encoded (s.toList.flatMap escapeChar) ++ [0x22]) := by
  rw [quote, utf8_ofList, encoded_cons, encoded_append]
  rfl

/-- A quoted string reads back. -/
theorem readString_quoted (s : String) (rest : List UInt8) :
    readString (encoded (s.toList.flatMap escapeChar) ++ 0x22 :: rest) = .ok (s, rest) := by
  refine readContents_closed s.toList [] rest (Nat.lt_succ_self _) ?_
  rw [List.reverse_nil, List.nil_append, ← utf8_ofList, String.ofList_toList, Utf8.text?_utf8]

/-! ## Whole numbers -/

/-- Only zero is written with a zero in front. -/
theorem toDigits_eq_cons (n : Nat) :
    ∃ first more, Nat.toDigits 10 n = first :: more ∧ (first = '0' → more = []) := by
  induction n using Nat.strongRecOn with
  | ind n ih =>
    by_cases small : n < 10
    · exact ⟨_, [], Nat.toDigits_of_lt_base small, fun _ => rfl⟩
    · obtain ⟨first, more, written, alone⟩ := ih (n / 10) (by omega)
      refine ⟨first, more ++ [(n % 10).digitChar], ?_, ?_⟩
      · rw [Nat.toDigits_of_base_le (by decide) (by omega), written, List.cons_append]
      · intro zero
        have value := Nat.ofDigitChars_ten_toDigits (n := n / 10)
        rw [written, zero, alone zero] at value
        have : (0 : Nat) = n / 10 := value
        omega

theorem isDigit_of_mem_toDigits {n : Nat} {c : Char} (hc : c ∈ Nat.toDigits 10 n) :
    c.isDigit = true := Nat.isDigit_of_mem_toDigits (by decide) (by decide) hc

theorem toNat_of_isDigit {c : Char} (digit : c.isDigit = true) :
    48 ≤ c.toNat ∧ c.toNat ≤ 57 := by
  simpa [Char.isDigit, UInt32.le_iff_toNat_le] using digit

theorem isDigit_ofNat {c : Char} (digit : c.isDigit = true) :
    isDigit (UInt8.ofNat c.toNat) = true := by
  have bounds := toNat_of_isDigit digit
  have value := toNat_ofNat_ascii (c := c) (by omega)
  simpa [isDigit, UInt8.le_iff_toNat_le, value] using bounds

theorem spanDigits_append {chars : List Char} (digits : ∀ c ∈ chars, c.isDigit = true)
    {rest : List UInt8} (ends : ∀ b ∈ rest.head?, isDigit b = false) :
    spanDigits (encoded chars ++ rest) = (chars.map fun c => c.toNat - 48, rest) := by
  induction chars with
  | nil =>
    cases rest with
    | nil => rfl
    | cons b rest => simp [spanDigits, ends b rfl]
  | cons c chars ih =>
    have digit := digits c List.mem_cons_self
    have ascii : c.toNat < 0x80 := Nat.lt_of_le_of_lt (toNat_of_isDigit digit).2 (by decide)
    rw [encoded_cons, utf8EncodeChar_ascii ascii, List.singleton_append, List.cons_append,
      spanDigits, if_pos (isDigit_ofNat digit), ih fun c hc => digits c (List.mem_cons_of_mem _ hc)]
    simp only [List.map_cons, digitValue, toNat_ofNat_ascii ascii]

theorem takeDigits_eq (chars : List Char) (significand : Nat)
    (fits : Nat.ofDigitChars 10 chars significand < UInt64.size) :
    takeDigits significand (chars.map fun c => c.toNat - 48) =
      (Nat.ofDigitChars 10 chars significand, chars.length) := by
  induction chars generalizing significand with
  | nil => rfl
  | cons c chars ih =>
    have next : Nat.ofDigitChars 10 (c :: chars) significand =
        Nat.ofDigitChars 10 chars (significand * 10 + (c.toNat - 48)) := by
      rw [Nat.ofDigitChars_cons, Nat.mul_comm]
      rfl
    rw [next] at fits ⊢
    have grows : significand * 10 + (c.toNat - 48) ≤
        Nat.ofDigitChars 10 chars (significand * 10 + (c.toNat - 48)) := by
      rw [Nat.ofDigitChars_eq_ofDigitChars_zero]
      exact Nat.le_trans (Nat.le_mul_of_pos_left _ (Nat.pow_pos (by decide))) (Nat.le_add_right _ _)
    rw [List.map_cons, takeDigits, if_pos (Nat.lt_of_le_of_lt grows fits), ih _ fits]
    rfl

/-- What may follow a value: nothing, or what separates or closes. -/
def Closes (rest : List UInt8) : Prop := ∀ b ∈ rest.head?, b = 0x2C ∨ b = 0x5D ∨ b = 0x7D

theorem closes_nil : Closes [] := nofun

theorem closes_cons {b : UInt8} (rest : List UInt8) (h : b = 0x2C ∨ b = 0x5D ∨ b = 0x7D) :
    Closes (b :: rest) := by
  intro c hc
  cases hc
  exact h

/-- The digits of a number below `2 ^ 64` read as that number. -/
theorem readNumber_digits (negative : Bool) {n : Nat} (fits : n < UInt64.size)
    {rest : List UInt8} (closes : Closes rest) :
    readNumber negative (encoded (Nat.toDigits 10 n) ++ rest) =
      (wholeNumber negative n).map (·, rest) := by
  have ends : ∀ b ∈ rest.head?, isDigit b = false := by
    intro b hb
    rcases closes b hb with rfl | rfl | rfl <;> rfl
  have span := spanDigits_append (fun c => isDigit_of_mem_toDigits (n := n)) ends
  have taken := takeDigits_eq (Nat.toDigits 10 n) 0 (by simpa using fits)
  obtain ⟨first, more, written, alone⟩ := toDigits_eq_cons n
  have digit : first.isDigit = true := isDigit_of_mem_toDigits (n := n) (by simp [written])
  have ascii : first.toNat < 0x80 := Nat.lt_of_le_of_lt (toNat_of_isDigit digit).2 (by decide)
  have start : ¬ (UInt8.ofNat first.toNat = 0x30 ∧ 1 < (first :: more).length) := by
    rintro ⟨zero, long⟩
    have : first = '0' := Char.toNat_inj.1 (toNat_ofNat_ascii ascii ▸ congrArg UInt8.toNat zero)
    rw [alone this] at long
    simp at long
  rw [written] at span taken ⊢
  rw [encoded_cons, utf8EncodeChar_ascii ascii, List.singleton_append, List.cons_append] at span ⊢
  have value : Nat.ofDigitChars 10 (first :: more) 0 = n := by
    rw [← written, Nat.ofDigitChars_ten_toDigits]
  have count : ((first :: more).map fun c => c.toNat - 48).length = (first :: more).length :=
    List.length_map _
  simp only [readNumber, isDigit_ofNat digit, Bool.not_true, Bool.false_eq_true, if_false, span,
    taken, value, count, Nat.sub_self, Bool.and_eq_true, decide_eq_true_eq, start, if_true]
  cases rest with
  | nil => rfl
  | cons b rest => rcases closes b rfl with rfl | rfl | rfl <;> rfl

theorem ofInt?_val (n : Whole) : ofInt? n.val = some (.num (.whole n)) := dif_pos n.range

/-- A literal whose value is a whole number reads as it, but for a negative zero. -/
theorem wholeNumber_eq {negative : Bool} {significand : Nat} (n : Whole)
    (value : (if negative then -(significand : Int) else significand) = n.val)
    (proper : ¬ (negative = true ∧ significand = 0)) :
    wholeNumber negative significand = .ok (.num (.whole n)) := by
  rw [wholeNumber, if_neg (by simpa using proper), value, ofInt?_val]

/-- The text of the number is a sign, if it is below zero, and digits that this reader of what
    follows a sign reads as the number. -/
def Number.ReadBy (number : (negative : Bool) → Reader Json) (n : Number) : Prop :=
  ∃ negative b more, utf8 n.text = (if negative then [0x2D] else []) ++ b :: more ∧
    isDigit b = true ∧
    ∀ rest, Closes rest → number negative (b :: more ++ rest) = .ok (.num n, rest)

/-- A number that is written as a sign and characters from a digit on. -/
theorem Number.readBy_of_chars {number : (negative : Bool) → Reader Json} {n : Number}
    {negative : Bool} {first : Char} {more : List Char} (digit : first.isDigit = true)
    (written : n.text = (if negative then "-" else "") ++ String.ofList (first :: more))
    (reads : ∀ rest, Closes rest →
      number negative (encoded (first :: more) ++ rest) = .ok (.num n, rest)) :
    n.ReadBy number := by
  have ascii : first.toNat < 0x80 := Nat.lt_of_le_of_lt (toNat_of_isDigit digit).2 (by decide)
  have bytes : encoded (first :: more) = UInt8.ofNat first.toNat :: encoded more := by
    rw [encoded_cons, utf8EncodeChar_ascii ascii, List.singleton_append]
  refine ⟨negative, UInt8.ofNat first.toNat, encoded more, ?_, isDigit_ofNat digit, ?_⟩
  · rw [← bytes, written, utf8_append, utf8_ofList]
    cases negative <;> rfl
  · rwa [← bytes]

/-- A whole number is written as a sign and the digits of its magnitude. -/
theorem Number.text_whole (n : Whole) : (Number.whole n).text =
    (if decide (n.val < 0) then "-" else "") ++ String.ofList (Nat.toDigits 10 n.val.natAbs) := by
  rw [Number.text, Double.digitText]
  by_cases below : n.val < 0
  · rw [if_pos below, if_pos (decide_eq_true below)]
  · rw [if_neg below, if_neg (by simpa using below), String.empty_append]

/-- The magnitude with its sign is the number, and zero has no sign. -/
theorem Whole.signed (n : Whole) :
    (if decide (n.val < 0) then -(n.val.natAbs : Int) else n.val.natAbs) = n.val ∧
      ¬ (decide (n.val < 0) = true ∧ n.val.natAbs = 0) := by
  simp only [decide_eq_true_eq]
  split <;> omega

/-- A whole number reads back. -/
theorem Number.readBy_readNumber (n : Whole) : (Number.whole n).ReadBy readNumber := by
  have range := n.range
  have fits : n.val.natAbs < UInt64.size := by
    simp only [UInt64.size]
    omega
  obtain ⟨first, more, digits, -⟩ := toDigits_eq_cons n.val.natAbs
  refine readBy_of_chars (isDigit_of_mem_toDigits (n := n.val.natAbs) (by simp [digits]))
    (digits ▸ text_whole n) fun rest closes => ?_
  rw [← digits, readNumber_digits _ fits closes, wholeNumber_eq n n.signed.1 n.signed.2]
  rfl

/-! ## Items -/

section Items

variable {α : Type} {close : UInt8} {item : Reader α} {write : α → List UInt8}

/-- Items that each follow a comma, up to the closing bracket. -/
def following (write : α → List UInt8) (items : List α) (close : UInt8) (rest : List UInt8) :
    List UInt8 := items.flatMap (fun x => 0x2C :: write x) ++ close :: rest

theorem following_cons (x : α) (items : List α) (rest : List UInt8) :
    following write (x :: items) close rest =
      0x2C :: (write x ++ following write items close rest) := by
  simp [following]

/-- Items with commas between them, up to the closing bracket. -/
def between (write : α → List UInt8) : List α → UInt8 → List UInt8 → List UInt8
  | [], close, rest => close :: rest
  | x :: items, close, rest => write x ++ following write items close rest

theorem closes_following (closing : close = 0x5D ∨ close = 0x7D) (items : List α)
    (rest : List UInt8) : Closes (following write items close rest) := by
  cases items with
  | nil => exact closes_cons rest (.inr closing)
  | cons x items => exact closes_cons _ (.inl rfl)

/-- A written item starts at once, and not as the bracket that closes. -/
def Starts (close : UInt8) (text : List UInt8) : Prop :=
  ∃ b more, text = b :: more ∧ isBlank b = false ∧ b ≠ close

theorem readItems_following (closing : close = 0x5D ∨ close = 0x7D) {items : List α}
    (starts : ∀ x ∈ items, Starts close (write x))
    (reads : ∀ x ∈ items, ∀ rest, Closes rest → item (write x ++ rest) = .ok (x, rest))
    (rest : List UInt8) (read : List α) {budget : Nat}
    (enough : (following write items close rest).length < budget) :
    readItems close item budget false read (following write items close rest) =
      .ok (read.reverse ++ items, rest) := by
  have visible : isBlank close = false := by rcases closing with rfl | rfl <;> rfl
  have comma : ¬ (0x2C : UInt8) = close := by rcases closing with rfl | rfl <;> decide
  have blank : isBlank 0x2C = false := rfl
  induction items generalizing read budget with
  | nil =>
    obtain ⟨left, rfl⟩ : ∃ left, budget = left + 1 := ⟨budget - 1, by omega⟩
    simp [following, readItems, skipBlank, visible]
  | cons x items ih =>
    obtain ⟨b, more, written, start, other⟩ := starts x List.mem_cons_self
    have one := reads x List.mem_cons_self (following write items close rest)
      (closes_following closing items rest)
    rw [following_cons] at enough ⊢
    rw [written, List.cons_append] at one enough ⊢
    simp only [List.length_cons, List.length_append] at enough
    obtain ⟨left, rfl⟩ : ∃ left, budget = left + 1 := ⟨budget - 1, by omega⟩
    have shorter : (following write items close rest).length < left := by omega
    have others := ih (fun x hx => starts x (List.mem_cons_of_mem _ hx))
      (fun x hx => reads x (List.mem_cons_of_mem _ hx)) (x :: read) shorter
    rw [readItems]
    simp only [skipBlank, blank, start, Bool.false_eq_true, if_false, if_neg comma, if_neg other,
      if_true, one, others]
    simp

/-- The items between brackets read back. -/
theorem readItems_between (closing : close = 0x5D ∨ close = 0x7D) {items : List α}
    (starts : ∀ x ∈ items, Starts close (write x))
    (reads : ∀ x ∈ items, ∀ rest, Closes rest → item (write x ++ rest) = .ok (x, rest))
    (rest : List UInt8) {budget : Nat} (enough : (between write items close rest).length < budget) :
    readItems close item budget true [] (between write items close rest) = .ok (items, rest) := by
  have visible : isBlank close = false := by rcases closing with rfl | rfl <;> rfl
  obtain ⟨left, rfl⟩ : ∃ left, budget = left + 1 := ⟨budget - 1, by omega⟩
  cases items with
  | nil => simp [between, readItems, skipBlank, visible]
  | cons x items =>
    obtain ⟨b, more, written, start, other⟩ := starts x List.mem_cons_self
    have one := reads x List.mem_cons_self (following write items close rest)
      (closes_following closing items rest)
    rw [between, written, List.cons_append] at enough ⊢
    simp only [List.length_cons, List.length_append] at enough
    have shorter : (following write items close rest).length < left := by omega
    have others := readItems_following closing
      (fun x hx => starts x (List.mem_cons_of_mem _ hx))
      (fun x hx => reads x (List.mem_cons_of_mem _ hx)) rest [x] shorter
    rw [written, List.cons_append] at one
    rw [readItems]
    simp only [skipBlank, start, Bool.false_eq_true, if_false, if_neg other, if_true, one, others]
    rfl

/-- Between brackets there is room for each item. -/
theorem length_le_between {x : α} {items : List α} (mem : x ∈ items) {rest : List UInt8} :
    (write x).length ≤ (between write items close rest).length := by
  have one (items : List α) (mem : x ∈ items) :
      (write x).length ≤ (following write items close rest).length := by
    obtain ⟨before, after, rfl⟩ := List.append_of_mem mem
    simp only [following, List.flatMap_append, List.flatMap_cons, List.length_append,
      List.length_cons]
    omega
  cases items with
  | nil => cases mem
  | cons y items =>
    rw [between, List.length_append]
    rcases List.mem_cons.1 mem with rfl | mem
    · exact Nat.le_add_right _ _
    · exact Nat.le_trans (one items mem) (Nat.le_add_left _ _)

end Items

theorem utf8_comma : utf8 "," = [0x2C] := by decide

theorem utf8_itemsText (items : List Json) (close : UInt8) (rest : List UInt8) :
    utf8 (itemsText items) ++ close :: rest = between bytes items close rest := by
  cases items with
  | nil => rfl
  | cons item items =>
    induction items generalizing item with
    | nil => rfl
    | cons next items ih =>
      have text : itemsText (item :: next :: items) =
          item.text ++ "," ++ itemsText (next :: items) := by simp [itemsText]
      rw [text, utf8_append, utf8_append, List.append_assoc, List.append_assoc, utf8_comma, ih]
      simp only [between, following_cons, bytes, List.singleton_append]

/-- A member as it is written. -/
def memberBytes (member : String × Json) : List UInt8 :=
  utf8 (quote member.1) ++ 0x3A :: member.2.bytes

theorem utf8_membersText (members : List (String × Json)) (close : UInt8) (rest : List UInt8) :
    utf8 (membersText members) ++ close :: rest = between memberBytes members close rest := by
  have colon : utf8 ":" = [0x3A] := by decide
  cases members with
  | nil => rfl
  | cons member members =>
    induction members generalizing member with
    | nil =>
      have text : membersText [member] = quote member.1 ++ ":" ++ member.2.text := by
        simp [membersText]
      rw [text, utf8_append, utf8_append, List.append_assoc, List.append_assoc, colon]
      simp [between, following, memberBytes, bytes]
    | cons next members ih =>
      have text : membersText (member :: next :: members) =
          quote member.1 ++ ":" ++ member.2.text ++ "," ++ membersText (next :: members) := by
        simp [membersText]
      rw [text, utf8_append, List.append_assoc, ih]
      simp [between, following_cons, memberBytes, bytes, colon, utf8_comma]

theorem bytes_arr (items : List Json) (rest : List UInt8) :
    (arr items).bytes ++ rest = 0x5B :: between bytes items 0x5D rest := by
  have bytes : (arr items).bytes = 0x5B :: (utf8 (itemsText items) ++ [0x5D]) := by
    rw [bytes, text, utf8_append, utf8_append]
    rfl
  rw [bytes, List.cons_append, List.append_assoc, List.singleton_append, utf8_itemsText]

theorem bytes_obj (members : List (String × Json)) (rest : List UInt8) :
    (obj members).bytes ++ rest = 0x7B :: between memberBytes members 0x7D rest := by
  have bytes : (obj members).bytes = 0x7B :: (utf8 (membersText members) ++ [0x7D]) := by
    rw [bytes, text, utf8_append, utf8_append]
    rfl
  rw [bytes, List.cons_append, List.append_assoc, List.singleton_append, utf8_membersText]

/-! ## Values -/

section Values

variable (number : (negative : Bool) → Reader Json)

/-- Reads a value as `readValue` does, but what follows the sign of a number with `number`. -/
def readValueWith : (depth : Nat) → Reader Json
  | depth, input =>
    match skipBlank input with
    | [] => .error .truncated
    | b :: rest =>
      if b = 0x6E then (readWord [0x75, 0x6C, 0x6C] rest).map (.null, ·)
      else if b = 0x74 then (readWord [0x72, 0x75, 0x65] rest).map (.bool true, ·)
      else if b = 0x66 then (readWord [0x61, 0x6C, 0x73, 0x65] rest).map (.bool false, ·)
      else if b = 0x2D then number true rest
      else if isDigit b then number false (b :: rest)
      else if b = 0x22 then (readString rest).map fun (s, rest') => (.str s, rest')
      else if b = 0x5B then
        match depth with
        | 0 => .error .malformed
        | depth' + 1 =>
          (readItems 0x5D (readValueWith depth') (rest.length + 1) true [] rest).map
            fun (items, rest') => (.arr items, rest')
      else if b = 0x7B then
        match depth with
        | 0 => .error .malformed
        | depth' + 1 =>
          (readItems 0x7D (readMember (readValueWith depth')) (rest.length + 1) true [] rest).map
            fun (members, rest') => (.obj members, rest')
      else .error .malformed

theorem readValueWith_readNumber (depth : Nat) :
    readValueWith readNumber depth = readValue depth := by
  induction depth with
  | zero =>
    funext input
    simp only [readValueWith]
    exact (readValue.eq_def 0 input).symm
  | succ depth ih =>
    funext input
    simp only [readValueWith, ih]
    exact (readValue.eq_def (depth + 1) input).symm

/-- Reading a value that starts at once, the case of its first byte open. -/
theorem readValueWith_cons (depth : Nat) {b : UInt8} (rest : List UInt8)
    (visible : isBlank b = false) :
    readValueWith number depth (b :: rest) =
      if b = 0x6E then (readWord [0x75, 0x6C, 0x6C] rest).map (.null, ·)
      else if b = 0x74 then (readWord [0x72, 0x75, 0x65] rest).map (.bool true, ·)
      else if b = 0x66 then (readWord [0x61, 0x6C, 0x73, 0x65] rest).map (.bool false, ·)
      else if b = 0x2D then number true rest
      else if isDigit b then number false (b :: rest)
      else if b = 0x22 then (readString rest).map fun (s, rest') => (.str s, rest')
      else if b = 0x5B then
        match depth with
        | 0 => .error .malformed
        | depth' + 1 =>
          (readItems 0x5D (readValueWith number depth') (rest.length + 1) true [] rest).map
            fun (items, rest') => (.arr items, rest')
      else if b = 0x7B then
        match depth with
        | 0 => .error .malformed
        | depth' + 1 =>
          (readItems 0x7D (readMember (readValueWith number depth')) (rest.length + 1) true []
            rest).map fun (members, rest') => (.obj members, rest')
      else .error .malformed := by
  rw [readValueWith]
  simp only [skipBlank, visible, Bool.false_eq_true, if_false]

theorem ne_of_isDigit {b : UInt8} (digit : isDigit b = true) (c : UInt8)
    (h : c.toNat < 48 ∨ 57 < c.toNat) : b ≠ c := by
  rintro rfl
  have bounds : 48 ≤ b.toNat ∧ b.toNat ≤ 57 := by
    simpa [isDigit, UInt8.le_iff_toNat_le] using digit
  omega

theorem isBlank_of_isDigit {b : UInt8} (digit : isDigit b = true) : isBlank b = false := by
  simp only [isBlank, Bool.or_eq_false_iff, beq_eq_false_iff_ne]
  have other := ne_of_isDigit digit
  exact ⟨⟨⟨other _ (by decide), other _ (by decide)⟩, other _ (by decide)⟩, other _ (by decide)⟩

/-- Values that nest arrays and objects no deeper than `depth`, and whose numbers `number` reads. -/
inductive Readable : (depth : Nat) → Json → Prop
  | null {depth : Nat} : Readable depth .null
  | bool {depth : Nat} (b : Bool) : Readable depth (.bool b)
  | num {depth : Nat} {n : Number} (read : n.ReadBy number) : Readable depth (.num n)
  | str {depth : Nat} (s : String) : Readable depth (.str s)
  | arr {depth : Nat} {items : List Json} (items_readable : ∀ item ∈ items, Readable depth item) :
    Readable (depth + 1) (.arr items)
  | obj {depth : Nat} {members : List (String × Json)}
    (members_readable : ∀ m ∈ members, Readable depth m.2) : Readable (depth + 1) (.obj members)

variable {number} {depth : Nat} {value : Json}

/-- A reader that goes deeper reads no less. -/
theorem Readable.mono (readable : Readable number depth value) {deeper : Nat}
    (le : depth ≤ deeper) : Readable number deeper value := by
  induction readable generalizing deeper with
  | null => exact .null
  | bool b => exact .bool b
  | num read => exact .num read
  | str s => exact .str s
  | arr items_readable ih =>
    obtain ⟨left, rfl⟩ : ∃ left, deeper = left + 1 := ⟨deeper - 1, by omega⟩
    exact .arr fun item mem => ih item mem (Nat.le_of_succ_le_succ le)
  | obj members_readable ih =>
    obtain ⟨left, rfl⟩ : ∃ left, deeper = left + 1 := ⟨deeper - 1, by omega⟩
    exact .obj fun m mem => ih m mem (Nat.le_of_succ_le_succ le)

/-- A number reads back as a value. -/
theorem Number.ReadBy.text_reads {n : Number} (read : n.ReadBy number) (depth : Nat)
    {rest : List UInt8} (closes : Closes rest) :
    readValueWith number depth (utf8 n.text ++ rest) = .ok (.num n, rest) := by
  obtain ⟨negative, b, more, written, digit, reads⟩ := read
  have read := reads rest closes
  cases negative with
  | true =>
    rw [written, if_pos rfl, List.append_assoc, List.singleton_append,
      readValueWith_cons number depth _ (by decide)]
    simpa using read
  | false =>
    have other := ne_of_isDigit digit
    rw [written, if_neg (by decide), List.nil_append, List.cons_append,
      readValueWith_cons number depth _ (isBlank_of_isDigit digit), if_neg (other _ (by decide)),
      if_neg (other _ (by decide)), if_neg (other _ (by decide)), if_neg (other _ (by decide)),
      if_pos digit]
    exact read

/-- Every written value starts at once, and not as a closing bracket. -/
theorem Readable.starts (readable : Readable number depth value) {close : UInt8}
    (closing : close = 0x5D ∨ close = 0x7D) : Starts close value.bytes := by
  have first {b : UInt8} {more : List UInt8} (visible : isBlank b = false)
      (other : b ≠ 0x5D ∧ b ≠ 0x7D) : Starts close (b :: more) := by
    refine ⟨b, more, rfl, visible, ?_⟩
    rcases closing with rfl | rfl
    · exact other.1
    · exact other.2
  cases readable with
  | null => exact first (b := 0x6E) rfl (by decide)
  | bool b => cases b with
    | true => exact first (b := 0x74) rfl (by decide)
    | false => exact first (b := 0x66) rfl (by decide)
  | num read =>
    obtain ⟨negative, b, more, written, digit, -⟩ := read
    rw [bytes, text, written]
    cases negative with
    | true => exact first (b := 0x2D) rfl (by decide)
    | false =>
      have other := ne_of_isDigit digit
      exact first (isBlank_of_isDigit digit) ⟨other _ (by decide), other _ (by decide)⟩
  | str s =>
    rw [bytes, text, utf8_quote]
    exact first rfl (by decide)
  | arr items =>
    rw [← List.append_nil (Json.bytes _), bytes_arr]
    exact first rfl (by decide)
  | obj members =>
    rw [← List.append_nil (Json.bytes _), bytes_obj]
    exact first rfl (by decide)

theorem readMember_memberBytes {value : Reader Json} {member : String × Json} {rest : List UInt8}
    (reads : value (member.2.bytes ++ rest) = .ok (member.2, rest)) :
    readMember value (memberBytes member ++ rest) = .ok (member, rest) := by
  have colon : isBlank 0x3A = false := rfl
  rw [memberBytes, utf8_quote]
  simp only [List.cons_append, List.append_assoc, List.nil_append, readMember, readString_quoted,
    bind, Except.bind, skipBlank, colon, Bool.false_eq_true, if_false, reads]

/-- A written value reads back, and nothing of what follows it is read. -/
theorem Readable.value_bytes (readable : Readable number depth value) {rest : List UInt8}
    (closes : Closes rest) :
    readValueWith number depth (value.bytes ++ rest) = .ok (value, rest) := by
  induction readable generalizing rest with
  | null =>
    have written : Json.null.bytes ++ rest = 0x6E :: 0x75 :: 0x6C :: 0x6C :: rest := rfl
    rw [written, readValueWith_cons _ _ _ (by decide)]
    simp [readWord, Except.map]
  | bool b =>
    cases b with
    | true =>
      have written : (Json.bool true).bytes ++ rest = 0x74 :: 0x72 :: 0x75 :: 0x65 :: rest := rfl
      rw [written, readValueWith_cons _ _ _ (by decide)]
      simp [readWord, Except.map]
    | false =>
      have written : (Json.bool false).bytes ++ rest =
        0x66 :: 0x61 :: 0x6C :: 0x73 :: 0x65 :: rest := rfl
      rw [written, readValueWith_cons _ _ _ (by decide)]
      simp [readWord, Except.map]
  | num read => exact Number.ReadBy.text_reads read _ closes
  | str s =>
    have written : (Json.str s).bytes ++ rest =
        0x22 :: (encoded (s.toList.flatMap escapeChar) ++ 0x22 :: rest) := by
      rw [bytes, text, utf8_quote]
      simp
    rw [written, readValueWith_cons _ _ _ (by decide)]
    simp [isDigit, readString_quoted, Except.map]
  | arr items_readable ih =>
    have closing : (0x5D : UInt8) = 0x5D ∨ (0x5D : UInt8) = 0x7D := .inl rfl
    have read := readItems_between closing
      (fun item hm => (items_readable item hm).starts closing)
      (fun item hm rest closes => ih item hm closes) rest (Nat.lt_succ_self _)
    rw [bytes_arr, readValueWith_cons _ _ _ (by decide)]
    simp [isDigit, read, Except.map]
  | obj members_readable ih =>
    have closing : (0x7D : UInt8) = 0x5D ∨ (0x7D : UInt8) = 0x7D := .inr rfl
    have read := readItems_between closing
      (fun m hm => ⟨_, _, by rw [memberBytes, utf8_quote]; rfl, rfl, by decide⟩)
      (fun m hm rest closes => readMember_memberBytes (ih m hm closes)) rest (Nat.lt_succ_self _)
    rw [bytes_obj, readValueWith_cons _ _ _ (by decide)]
    simp [isDigit, read, Except.map]

theorem Readable.readValue_bytes (readable : Readable readNumber depth value) :
    readValue depth value.bytes = .ok (value, []) := by
  have read := readable.value_bytes closes_nil
  rwa [List.append_nil, readValueWith_readNumber] at read

/-- A whole text that is a written value reads as the value, its members in the order written. -/
theorem Readable.readRaw_bytes (readable : Readable readNumber depthLimit value) :
    readRaw value.bytes = .ok value := by
  rw [readRaw, readable.readValue_bytes]
  rfl

end Values

end Laneway.Json
