import Laneway.Json.Basic
import Laneway.Text.Hex

set_option autoImplicit false

/-! # Reading JSON text

`Json.read` reads one value from bytes and stops at the first fault. A fault is `truncated` when
the text ends too early and `malformed` otherwise; `mismatched` is left to readers of particular
shapes that refuse a well-formed value. Nesting is limited to `Json.depthLimit` arrays and objects,
and the limit is also what the recursion goes down on. Loops take a budget, the number of bytes,
which is never short because each round reads one. -/

namespace Laneway

namespace Json

/-- Why JSON text was refused. -/
inductive ReadError where
  /-- The text is no JSON, or a number is out of range, or the nesting is too deep. -/
  | malformed
  /-- The text ends inside or before a value. -/
  | truncated
  /-- The text is JSON of another shape than asked for. -/
  | mismatched
deriving DecidableEq, Repr

/-- A reader takes what it reads off the front of the bytes. -/
abbrev Reader (α : Type) := List UInt8 → Except ReadError (α × List UInt8)

/-- The deepest nesting of arrays and objects that is read. -/
def depthLimit : Nat := 127

/-- Blank space between tokens. -/
def isBlank (b : UInt8) : Bool := b == 0x20 || b == 0x09 || b == 0x0A || b == 0x0D

/-- The bytes after leading blank space. -/
def skipBlank : List UInt8 → List UInt8
  | [] => []
  | b :: rest => if isBlank b then skipBlank rest else b :: rest

/-- Expects the bytes of `word`. -/
def readWord : (word : List UInt8) → List UInt8 → Except ReadError (List UInt8)
  | [], input => .ok input
  | _ :: _, [] => .error .truncated
  | w :: word, b :: rest => if b = w then readWord word rest else .error .malformed

/-! ## Numbers -/

def isDigit (b : UInt8) : Bool := 0x30 ≤ b && b ≤ 0x39

def digitValue (b : UInt8) : Nat := b.toNat - 0x30

/-- The digits at the front and the bytes after them. -/
def spanDigits : List UInt8 → List Nat × List UInt8
  | [] => ([], [])
  | b :: rest =>
    if isDigit b then
      let (digits, rest') := spanDigits rest
      (digitValue b :: digits, rest')
    else ([], b :: rest)

/-- Takes digits into a significand of 64 bits until one does not fit: the significand, and how
    many digits were taken. -/
def takeDigits : (significand : Nat) → List Nat → Nat × Nat
  | significand, [] => (significand, 0)
  | significand, d :: rest =>
    if significand * 10 + d < UInt64.size then
      let (s, taken) := takeDigits (significand * 10 + d) rest
      (s, taken + 1)
    else (significand, 0)

/-- Divides by ten `down` times, `10 ^ 308` at once while more remain. The budget counts those
    rounds; three of them bring any significand to zero. -/
def scaleDown : (budget : Nat) → Double → (down : Nat) → Double
  | 0, d, _ => d
  | budget + 1, d, down =>
    if down ≤ 308 then d.div (Double.powerOfTen down)
    else if d.magnitude = 0 then d
    else scaleDown budget (d.div (Double.powerOfTen 308)) (down - 308)

/-- The double of a significand scaled by a power of ten, `none` when it is out of range. The
    significand is rounded first, and each multiplication or division rounds again. -/
def scaleByTen (significand : Nat) (exponent : Int) : Option Double :=
  let start := Double.ofNat significand
  if exponent < 0 then some (scaleDown 4 start (-exponent).toNat)
  else if exponent ≤ 308 then
    let scaled := start.mul (Double.powerOfTen exponent.toNat)
    if scaled.isFinite then some scaled else none
  else if significand = 0 then some start
  else none

/-- A double with its sign, as a number. -/
def realNumber (negative : Bool) (significand : Nat) (exponent : Int) : Except ReadError Json :=
  match scaleByTen significand exponent with
  | some d => .ok (ofDouble (if negative then d.negate else d))
  | none => .error .malformed

/-- Reads an exponent part after its letter. -/
def readExponent (negative : Bool) (significand : Nat) (exponent : Int) : Reader Json :=
  fun input =>
  let (down, input) := match input with
    | 0x2B :: rest => (false, rest)
    | 0x2D :: rest => (true, rest)
    | rest => (false, rest)
  match input with
  | [] => .error .truncated
  | b :: _ =>
    if !isDigit b then .error .malformed
    else
      let (digits, rest) := spanDigits input
      let power : Int := (digits.foldl (fun n d => n * 10 + d) 0 : Nat)
      (realNumber negative significand (if down then exponent - power else exponent + power)).map
        (·, rest)

/-- Reads an exponent part if there is one, and finishes a real number. -/
def finishReal (negative : Bool) (significand : Nat) (exponent : Int) : Reader Json
  | [] => (realNumber negative significand exponent).map (·, [])
  | b :: rest =>
    if b = 0x65 || b = 0x45 then readExponent negative significand exponent rest
    else (realNumber negative significand exponent).map (·, b :: rest)

/-- Reads the fraction after its point. Digits past 64 bits are skipped. -/
def readFraction (negative : Bool) (significand : Nat) (exponent : Int) : Reader Json :=
  fun input =>
  match spanDigits input with
  | ([], []) => .error .truncated
  | ([], _ :: _) => .error .malformed
  | (digits, rest) =>
    let (significand', taken) := takeDigits significand digits
    finishReal negative significand' (exponent - taken) rest

/-- A literal without fraction and exponent: a whole number, a double past 64 bits, and a negative
    zero as a double. -/
def wholeNumber (negative : Bool) (significand : Nat) : Except ReadError Json :=
  let i : Int := if negative then -significand else significand
  if negative && significand = 0 then realNumber true 0 0
  else match ofInt? i with
    | some value => .ok value
    | none => realNumber negative significand 0

/-- Reads a number after its sign. An integer part past 64 bits keeps its leading digits and counts
    the others as a power of ten. -/
def readNumber (negative : Bool) : Reader Json
  | [] => .error .truncated
  | b :: rest =>
    if !isDigit b then .error .malformed
    else
      let (digits, rest') := spanDigits (b :: rest)
      if b = 0x30 && 1 < digits.length then .error .malformed
      else
        let (significand, taken) := takeDigits 0 digits
        let dropped := digits.length - taken
        match rest' with
        | 0x2E :: rest'' => readFraction negative significand dropped rest''
        | _ =>
          if dropped = 0 then
            match rest' with
            | 0x65 :: rest'' => readExponent negative significand 0 rest''
            | 0x45 :: rest'' => readExponent negative significand 0 rest''
            | _ => (wholeNumber negative significand).map (·, rest')
          else finishReal negative significand dropped rest'

/-! ## Strings -/

/-- Reads the four digits of an escaped code unit. -/
def readUnit : Reader Nat
  | a :: b :: c :: d :: rest =>
    match Hex.value? a, Hex.value? b, Hex.value? c, Hex.value? d with
    | some a, some b, some c, some d => .ok (((a * 16 + b) * 16 + c) * 16 + d, rest)
    | _, _, _, _ => .error .malformed
  | _ => .error .truncated

/-- Reads the rest of an escaped scalar value after `\u`: a lone unit, or a leading surrogate with
    the escaped trailing surrogate that must follow. -/
def readScalar : Reader Char := fun input => do
  let (unit, rest) ← readUnit input
  if 0xDC00 ≤ unit ∧ unit ≤ 0xDFFF then .error .malformed
  else if unit < 0xD800 ∨ 0xDBFF < unit then .ok (Char.ofNat unit, rest)
  else
    match rest with
    | [] => .error .truncated
    | 0x5C :: [] => .error .truncated
    | 0x5C :: 0x75 :: rest' =>
      let (trail, rest'') ← readUnit rest'
      if trail < 0xDC00 ∨ 0xDFFF < trail then .error .malformed
      else .ok (Char.ofNat (0x10000 + (unit - 0xD800) * 0x400 + (trail - 0xDC00)), rest'')
    | _ => .error .malformed

/-- The character of a one-letter escape. -/
def escapedByte? (b : UInt8) : Option UInt8 :=
  if b = 0x22 || b = 0x5C || b = 0x2F then some b
  else if b = 0x62 then some 0x08
  else if b = 0x66 then some 0x0C
  else if b = 0x6E then some 0x0A
  else if b = 0x72 then some 0x0D
  else if b = 0x74 then some 0x09
  else none

/-- Reads what follows a backslash: the bytes it stands for. -/
def readEscape : Reader (List UInt8)
  | [] => .error .truncated
  | b :: rest =>
    if b = 0x75 then (readScalar rest).map fun (char, rest') => (String.utf8EncodeChar char, rest')
    else match escapedByte? b with
      | some byte => .ok ([byte], rest)
      | none => .error .malformed

/-- Reads string contents up to the closing quote. `read` holds the bytes so far, last first; they
    are checked to be text at the end. -/
def readContents : (budget : Nat) → (read : List UInt8) → Reader String
  | 0, _, _ => .error .truncated
  | _ + 1, _, [] => .error .truncated
  | budget + 1, read, b :: rest =>
    if b = 0x22 then
      match Utf8.text? read.reverse with
      | some text => .ok (text, rest)
      | none => .error .malformed
    else if b = 0x5C then
      match readEscape rest with
      | .ok (bytes, rest') => readContents budget (bytes.reverse ++ read) rest'
      | .error e => .error e
    else if b < 0x20 then .error .malformed
    else readContents budget (b :: read) rest

def readString : Reader String := fun input => readContents (input.length + 1) [] input

/-! ## Arrays, objects and values -/

/-- Reads items up to a closing bracket. `first` says that no item has been read yet, so that no
    comma is due. -/
def readItems {α : Type} (close : UInt8) (item : Reader α) :
    (budget : Nat) → (first : Bool) → (read : List α) → Reader (List α)
  | 0, _, _, _ => .error .truncated
  | budget + 1, first, read, input =>
    match skipBlank input with
    | [] => .error .truncated
    | b :: rest =>
      if b = close then .ok (read.reverse, rest)
      else if first then
        match item (b :: rest) with
        | .ok (value, rest') => readItems close item budget false (value :: read) rest'
        | .error e => .error e
      else if b = 0x2C then
        match skipBlank rest with
        | [] => .error .truncated
        | c :: rest' =>
          if c = close then .error .malformed
          else match item (c :: rest') with
            | .ok (value, rest'') => readItems close item budget false (value :: read) rest''
            | .error e => .error e
      else .error .malformed

/-- Reads a member: a string, a colon and a value. -/
def readMember (value : Reader Json) : Reader (String × Json)
  | 0x22 :: rest => do
    let (key, rest) ← readString rest
    match skipBlank rest with
    | [] => .error .truncated
    | 0x3A :: rest => do
      let (v, rest) ← value rest
      .ok ((key, v), rest)
    | _ => .error .malformed
  | _ => .error .malformed

/-- Reads a value, blank space before it included, with at most `depth` levels of nesting. -/
def readValue : (depth : Nat) → Reader Json
  | depth, input =>
    match skipBlank input with
    | [] => .error .truncated
    | b :: rest =>
      if b = 0x6E then (readWord [0x75, 0x6C, 0x6C] rest).map (.null, ·)
      else if b = 0x74 then (readWord [0x72, 0x75, 0x65] rest).map (.bool true, ·)
      else if b = 0x66 then (readWord [0x61, 0x6C, 0x73, 0x65] rest).map (.bool false, ·)
      else if b = 0x2D then readNumber true rest
      else if isDigit b then readNumber false (b :: rest)
      else if b = 0x22 then (readString rest).map fun (s, rest') => (.str s, rest')
      else if b = 0x5B then
        match depth with
        | 0 => .error .malformed
        | depth' + 1 =>
          (readItems 0x5D (readValue depth') (rest.length + 1) true [] rest).map
            fun (items, rest') => (.arr items, rest')
      else if b = 0x7B then
        match depth with
        | 0 => .error .malformed
        | depth' + 1 =>
          (readItems 0x7D (readMember (readValue depth')) (rest.length + 1) true [] rest).map
            fun (members, rest') => (.obj members, rest')
      else .error .malformed

/-- The fault of a value that is not of the shape asked for: a scalar is read whole first, so a
    fault inside it wins. The input starts with the value. -/
def wrongShape : List UInt8 → ReadError
  | [] => .truncated
  | b :: rest =>
    if b = 0x5B || b = 0x7B then .mismatched
    else match readValue 0 (b :: rest) with
      | .ok _ => .mismatched
      | .error e => e

/-- Refuses anything but blank space after a value. -/
def finish {α : Type} (value : α) (rest : List UInt8) : Except ReadError α :=
  if (skipBlank rest).isEmpty then .ok value else .error .malformed

/-- Reads a whole text as one value, members as written. -/
def readRaw (bytes : List UInt8) : Except ReadError Json := do
  let (value, rest) ← readValue depthLimit bytes
  finish value rest

/-- Reads a whole text as one value in canonical form. -/
def read (bytes : List UInt8) : Except ReadError Json := (readRaw bytes).map canonical

end Json

end Laneway
