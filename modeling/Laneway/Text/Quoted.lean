import Laneway.Text.Unprintable
import Laneway.Text.Utf8

set_option autoImplicit false

/-! # Quoted text

Texts and raw bytes are shown to people between double quotes, with escapes for whatever would not
show: quotes, backslashes, controls, characters without a glyph, and bytes that are not text. -/

namespace Laneway

namespace Quoted

/-- The digits of a number in base sixteen. -/
def hex (n : Nat) : List Char := Nat.toDigits 16 n

/-- A character between quotes; `single` says whether single quotes are escaped too. -/
def escape (single : Bool) (c : Char) : List Char :=
  if c = '\x00' then ['\\', '0']
  else if c = '\t' then ['\\', 't']
  else if c = '\x0d' then ['\\', 'r']
  else if c = '\n' then ['\\', 'n']
  else if c = '"' then ['\\', '"']
  else if c = '\\' then ['\\', '\\']
  else if c = '\x27' && single then ['\\', '\x27']
  else if c.toNat < 0x20 || c.toNat = 0x7F || (0x80 ≤ c.toNat && isUnprintable c) then
    ['\\', 'u', '\x7b'] ++ hex c.toNat ++ ['\x7d']
  else [c]

/-- A text between double quotes. -/
def text (s : String) : String := String.ofList ('"' :: (s.toList.flatMap (escape false) ++ ['"']))

/-- A byte that is no text, as two upper-case hexadecimal digits. -/
def escapeByte (b : UInt8) : List Char :=
  let digits := (hex b.toNat).map Char.toUpper
  ['\\', 'x'] ++ List.replicate (2 - digits.length) '0' ++ digits

/-- Raw bytes between double quotes: the text among them, and the other bytes one by one. -/
def bytes (raw : List UInt8) : String :=
  let shown := (Utf8.units raw).flatMap fun
    | .inl char => escape true char
    | .inr unit => unit.flatMap escapeByte
  String.ofList ('"' :: (shown ++ ['"']))

end Quoted

end Laneway
