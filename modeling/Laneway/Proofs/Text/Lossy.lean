import Laneway.Proofs.Json.Reading

set_option autoImplicit false

/-! # Text read by a decoder that never fails

A decoder that replaces what it cannot read finds nothing to replace in the bytes of a text: the
bytes of each character are one well-formed unit, whatever follows them, and the unit stands for this
character. So the text comes back as it was. -/

namespace Laneway.Utf8

/-! ## Bytes of a sequence -/

/-- The byte that continues a sequence with these six bits. -/
def tail (bits : Nat) : UInt8 := UInt8.ofNat (bits + 0x80)

theorem continues_tail : ∀ {bits : Nat}, bits < 64 → isContinuation (tail bits) = true := by
  decide +kernel

theorem payload_tail : ∀ {bits : Nat}, bits < 64 → payload (tail bits) = bits := by decide +kernel

theorem front_two {high low : Nat} (long : 2 ≤ high) (fits : high < 32) (small : low < 64)
    (rest : List UInt8) :
    front (UInt8.ofNat (high + 0xC0)) (tail low :: rest) =
      .scalar (Char.ofNat (high * 64 + low)) rest := by
  have lead : ∀ high < 32, 2 ≤ high → ¬ UInt8.ofNat (high + 0xC0) < 0x80 ∧
      (0xC2 ≤ UInt8.ofNat (high + 0xC0) && UInt8.ofNat (high + 0xC0) ≤ 0xDF) = true ∧
      (UInt8.ofNat (high + 0xC0) &&& 0x1F).toNat = high := by decide +kernel
  obtain ⟨wide, two, bits⟩ := lead high fits long
  simp only [front, if_neg wide, if_pos two, continues_tail small, payload_tail small, bits, if_true]

/-- Three bytes: the second excludes what two bytes can write, and surrogates. -/
theorem front_three {high middle low : Nat} (fits : high < 16) (between : middle < 64)
    (small : low < 64) (long : high = 0 → 32 ≤ middle) (scalar : high = 13 → middle < 32)
    (rest : List UInt8) :
    front (UInt8.ofNat (high + 0xE0)) (tail middle :: tail low :: rest) =
      .scalar (Char.ofNat ((high * 64 + middle) * 64 + low)) rest := by
  have lead : ∀ high < 16, ¬ UInt8.ofNat (high + 0xE0) < 0x80 ∧
      ¬ (0xC2 ≤ UInt8.ofNat (high + 0xE0) && UInt8.ofNat (high + 0xE0) ≤ 0xDF) = true ∧
      (0xE0 ≤ UInt8.ofNat (high + 0xE0) && UInt8.ofNat (high + 0xE0) ≤ 0xEF) = true ∧
      (UInt8.ofNat (high + 0xE0) &&& 0x0F).toNat = high := by decide +kernel
  have second : ∀ high < 16, ∀ middle < 64, (high = 0 → 32 ≤ middle) → (high = 13 → middle < 32) →
      permits (UInt8.ofNat (high + 0xE0)) (tail middle) = true := by decide +kernel
  obtain ⟨wide, notTwo, three, bits⟩ := lead high fits
  simp only [front, if_neg wide, if_neg notTwo, if_pos three, second high fits middle between long
    scalar, continues_tail small, payload_tail between, payload_tail small, bits, Bool.not_true,
    Bool.false_eq_true, if_false, if_true]

/-- Four bytes: the second excludes what three bytes can write, and what is past the last
    character. -/
theorem front_four {high second third low : Nat} (fits : high < 5) (between : second < 64)
    (between' : third < 64) (small : low < 64) (long : high = 0 → 16 ≤ second)
    (scalar : high = 4 → second < 16) (rest : List UInt8) :
    front (UInt8.ofNat (high + 0xF0)) (tail second :: tail third :: tail low :: rest) =
      .scalar (Char.ofNat (((high * 64 + second) * 64 + third) * 64 + low)) rest := by
  have lead : ∀ high < 5, ¬ UInt8.ofNat (high + 0xF0) < 0x80 ∧
      ¬ (0xC2 ≤ UInt8.ofNat (high + 0xF0) && UInt8.ofNat (high + 0xF0) ≤ 0xDF) = true ∧
      ¬ (0xE0 ≤ UInt8.ofNat (high + 0xF0) && UInt8.ofNat (high + 0xF0) ≤ 0xEF) = true ∧
      (0xF0 ≤ UInt8.ofNat (high + 0xF0) && UInt8.ofNat (high + 0xF0) ≤ 0xF4) = true ∧
      (UInt8.ofNat (high + 0xF0) &&& 0x07).toNat = high := by decide +kernel
  have permitted : ∀ high < 5, ∀ second < 64, (high = 0 → 16 ≤ second) → (high = 4 → second < 16) →
      permits (UInt8.ofNat (high + 0xF0)) (tail second) = true := by decide +kernel
  obtain ⟨wide, notTwo, notThree, four, bits⟩ := lead high fits
  simp only [front, if_neg wide, if_neg notTwo, if_neg notThree, if_pos four,
    permitted high fits second between long scalar, continues_tail between', continues_tail small,
    payload_tail between, payload_tail between', payload_tail small, bits, Bool.not_true,
    Bool.false_eq_true, if_false, if_true]

/-! ## Characters -/

/-- The bytes of a character are one unit, whatever follows. -/
theorem front_utf8EncodeChar (c : Char) : ∃ lead more, String.utf8EncodeChar c = lead :: more ∧
    ∀ rest, front lead (more ++ rest) = .scalar c rest := by
  have scalar : c.toNat < 0xD800 ∨ 0xDFFF < c.toNat ∧ c.toNat < 0x110000 := c.valid
  have char {n : Nat} (same : n = c.toNat) : Char.ofNat n = c := by rw [same, Char.ofNat_toNat]
  have value : c.val.toNat = c.toNat := rfl
  unfold String.utf8EncodeChar
  simp only [value]
  split
  · next ascii =>
    refine ⟨_, _, rfl, fun rest => ?_⟩
    have low : UInt8.ofNat c.toNat < 0x80 := by
      rw [UInt8.lt_iff_toNat_lt, Json.toNat_ofNat_ascii (by omega)]
      show c.toNat < 0x80
      omega
    unfold front
    rw [if_pos low, char (Json.toNat_ofNat_ascii (by omega)), List.nil_append]
  · split
    · refine ⟨_, _, rfl, fun rest => ?_⟩
      exact (front_two (by omega) (by omega) (by omega) rest).trans (by rw [char (by omega)])
    · split
      · refine ⟨_, _, rfl, fun rest => ?_⟩
        exact (front_three (by omega) (by omega) (by omega) (by omega) (by omega) rest).trans
          (by rw [char (by omega)])
      · refine ⟨_, _, rfl, fun rest => ?_⟩
        exact (front_four (by omega) (by omega) (by omega) (by omega) (by omega) (by omega)
          rest).trans (by rw [char (by omega)])

theorem unitsWithin_encoded (chars : List Char) {budget : Nat}
    (enough : (Json.encoded chars).length ≤ budget) :
    unitsWithin budget (Json.encoded chars) = chars.map .inl := by
  induction chars generalizing budget with
  | nil => cases budget <;> rfl
  | cons c chars ih =>
    obtain ⟨lead, more, bytes, reads⟩ := front_utf8EncodeChar c
    rw [Json.encoded_cons, bytes, List.cons_append] at enough ⊢
    rw [List.length_cons, List.length_append] at enough
    obtain ⟨left, rfl⟩ : ∃ left, budget = left + 1 := ⟨budget - 1, by omega⟩
    simp only [unitsWithin, reads, List.map_cons]
    rw [ih (by omega)]

/-- A text comes back from its own bytes. -/
theorem lossy_utf8 (text : String) : lossy (utf8 text) = text := by
  have bytes : utf8 text = Json.encoded text.toList := by
    rw [← Json.utf8_ofList, String.ofList_toList]
  rw [lossy, units, bytes, unitsWithin_encoded _ (Nat.le_refl _), List.map_map]
  exact (congrArg String.ofList (List.map_id _)).trans String.ofList_toList

end Laneway.Utf8
