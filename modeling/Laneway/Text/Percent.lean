import Laneway.Text.Hex
import Laneway.Text.Utf8

set_option autoImplicit false

/-! # Percent encoding

A byte that may not stand in a text is written as a percent sign and two upper-case hexadecimal
digits. Decoding takes digits in either case and leaves a percent sign without two of them as it
is, so it never fails. -/

namespace Laneway

namespace Percent

/-- One byte, as itself when `keeps` allows it. -/
def encodeByte (keeps : UInt8 → Bool) (b : UInt8) : List Char :=
  if keeps b then [Char.ofNat b.toNat] else '%' :: Hex.upperByte b

/-- The bytes of a text with all but those that `keeps` allows encoded. It should allow ASCII
    only. -/
def encode (keeps : UInt8 → Bool) (text : List Char) : String :=
  String.ofList ((utf8 (String.ofList text)).flatMap (encodeByte keeps))

/-- The byte that an encoded byte at the front stands for. -/
def escaped? : List UInt8 → Option UInt8
  | 0x25 :: high :: low :: _ => Hex.byte? high low
  | _ => none

/-- The bytes an encoded text stands for. -/
def decode : List UInt8 → List UInt8
  | [] => []
  | b :: rest =>
    match escaped? (b :: rest) with
    | some byte => byte :: decode (rest.drop 2)
    | none => b :: decode rest
termination_by bytes => bytes.length
decreasing_by all_goals simp only [List.length_drop, List.length_cons]; omega

theorem escaped?_of_ne {b : UInt8} (h : b ≠ 0x25) (rest : List UInt8) :
    escaped? (b :: rest) = none := by
  unfold escaped?
  split
  · rename_i heq
    exact absurd (List.cons.inj heq).1 h
  · rfl

/-- Bytes without a percent sign stand for themselves. -/
theorem decode_of_notMem {bytes : List UInt8} (h : 0x25 ∉ bytes) : decode bytes = bytes := by
  induction bytes with
  | nil => simp [decode]
  | cons b rest ih =>
    simp only [List.mem_cons, not_or] at h
    rw [decode, escaped?_of_ne (Ne.symm h.1), ih h.2]

end Percent

end Laneway
