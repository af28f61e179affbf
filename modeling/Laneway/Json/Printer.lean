import Laneway.Json.Basic
import Laneway.Text.Hex

set_option autoImplicit false

/-! # Compact JSON text

`Json.text` writes a value without blank space: members in the order they are held, non-ASCII
characters as themselves, and only quotes, backslashes and control characters escaped. -/

namespace Laneway

namespace Json

def escapeChar (c : Char) : List Char :=
  if c = '"' then ['\\', '"']
  else if c = '\\' then ['\\', '\\']
  else if c = '\x08' then ['\\', 'b']
  else if c = '\x0c' then ['\\', 'f']
  else if c = '\n' then ['\\', 'n']
  else if c = '\x0d' then ['\\', 'r']
  else if c = '\t' then ['\\', 't']
  else if c.toNat < 0x20 then
    ['\\', 'u', '0', '0', Hex.lower (c.toNat / 16), Hex.lower (c.toNat % 16)]
  else [c]

/-- A string with its quotes. -/
def quote (s : String) : String := String.ofList ('"' :: (s.toList.flatMap escapeChar ++ ['"']))

def Number.text : Number → String
  | .whole n => if n.val < 0 then "-" ++ Double.digitText n.val.natAbs
      else Double.digitText n.val.natAbs
  | .real d => d.val.text

mutual

/-- The compact text of a value. -/
def text : Json → String
  | .null => "null"
  | .bool b => if b then "true" else "false"
  | .num n => n.text
  | .str s => quote s
  | .arr items => "[" ++ itemsText items ++ "]"
  | .obj members => "\x7b" ++ membersText members ++ "\x7d"

def itemsText : List Json → String
  | [] => ""
  | [item] => text item
  | item :: rest => text item ++ "," ++ itemsText rest

def membersText : List (String × Json) → String
  | [] => ""
  | [(key, value)] => quote key ++ ":" ++ text value
  | (key, value) :: rest => quote key ++ ":" ++ text value ++ "," ++ membersText rest

end

def bytes (value : Json) : List UInt8 := utf8 value.text

end Json

end Laneway
