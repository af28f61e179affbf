set_option autoImplicit false

/-! # UTF-8 text and the bytes that are not text

`Utf8.split` reads the front of a byte list: one scalar value, or the longest prefix that a decoder
replaces as one unit. Both readings of a byte list are built on it: `Utf8.text?` refuses anything
ill formed, `Utf8.lossy` writes U+FFFD for each ill-formed unit. -/

namespace Laneway

/-- The UTF-8 bytes of a text. -/
def utf8 (text : String) : List UInt8 := text.toByteArray.data.toList

namespace Utf8

/-- What stands at the front of a byte list. -/
inductive Front where
  /-- A well-formed scalar value and the bytes after it. -/
  | scalar (char : Char) (rest : List UInt8)
  /-- An ill-formed unit, replaced as a whole, and the bytes after it. -/
  | broken (unit : List UInt8) (rest : List UInt8)

/-- A byte that continues a sequence. -/
def isContinuation (b : UInt8) : Bool := b &&& 0xC0 == 0x80

/-- The payload of a continuation byte. -/
def payload (b : UInt8) : Nat := (b &&& 0x3F).toNat

/-- The second byte a lead byte permits: some leads exclude overlong forms, surrogates, and values
    past U+10FFFF. -/
def permits (lead second : UInt8) : Bool :=
  if lead == 0xE0 then 0xA0 ≤ second && second ≤ 0xBF
  else if lead == 0xED then 0x80 ≤ second && second ≤ 0x9F
  else if lead == 0xF0 then 0x90 ≤ second && second ≤ 0xBF
  else if lead == 0xF4 then 0x80 ≤ second && second ≤ 0x8F
  else isContinuation second

/-- The front of a non-empty byte list. -/
def front (lead : UInt8) (rest : List UInt8) : Front :=
  if lead < 0x80 then .scalar (Char.ofNat lead.toNat) rest
  else if 0xC2 ≤ lead && lead ≤ 0xDF then
    match rest with
    | a :: rest' =>
      if isContinuation a then
        .scalar (Char.ofNat ((lead &&& 0x1F).toNat * 64 + payload a)) rest'
      else .broken [lead] rest
    | [] => .broken [lead] []
  else if 0xE0 ≤ lead && lead ≤ 0xEF then
    match rest with
    | a :: rest' =>
      if !permits lead a then .broken [lead] rest
      else match rest' with
        | b :: rest'' =>
          if isContinuation b then
            .scalar (Char.ofNat (((lead &&& 0x0F).toNat * 64 + payload a) * 64 + payload b)) rest''
          else .broken [lead, a] rest'
        | [] => .broken [lead, a] []
    | [] => .broken [lead] []
  else if 0xF0 ≤ lead && lead ≤ 0xF4 then
    match rest with
    | a :: rest' =>
      if !permits lead a then .broken [lead] rest
      else match rest' with
        | b :: rest'' =>
          if !isContinuation b then .broken [lead, a] rest'
          else match rest'' with
            | c :: rest''' =>
              if isContinuation c then
                .scalar (Char.ofNat ((((lead &&& 0x07).toNat * 64 + payload a) * 64
                  + payload b) * 64 + payload c)) rest'''
              else .broken [lead, a, b] rest''
            | [] => .broken [lead, a, b] []
        | [] => .broken [lead, a] []
    | [] => .broken [lead] []
  else .broken [lead] rest

/-- The units of a byte list, each a scalar value or an ill-formed unit. `budget` bounds their
    number and is never short when it is the number of bytes. -/
def unitsWithin : (budget : Nat) → List UInt8 → List (Char ⊕ List UInt8)
  | 0, _ => []
  | _ + 1, [] => []
  | budget + 1, lead :: rest =>
    match front lead rest with
    | .scalar char rest' => .inl char :: unitsWithin budget rest'
    | .broken unit rest' => .inr unit :: unitsWithin budget rest'

/-- The units of a byte list in order. -/
def units (bytes : List UInt8) : List (Char ⊕ List UInt8) := unitsWithin bytes.length bytes

/-- The text the bytes spell, or `none` when some unit is ill formed. -/
def text? (bytes : List UInt8) : Option String := String.fromUTF8? (ByteArray.mk bytes.toArray)

/-- The text the bytes spell, U+FFFD standing for each ill-formed unit. -/
def lossy (bytes : List UInt8) : String :=
  String.ofList ((units bytes).map fun
    | .inl char => char
    | .inr _ => '\ufffd')

/-- Text reads back from its own bytes. -/
@[simp] theorem text?_utf8 (text : String) : text? (utf8 text) = some text := by
  simp only [text?, utf8, Array.toArray_toList]
  show String.fromUTF8? text.toByteArray = some text
  simp only [String.fromUTF8?, dif_pos text.isValidUTF8]
  rfl

end Utf8

/-- The bytes of joined texts are the joined bytes. -/
@[simp] theorem utf8_append (a b : String) : utf8 (a ++ b) = utf8 a ++ utf8 b := by
  simp [utf8]

end Laneway
