import Laneway.Json.Reader

set_option autoImplicit false

/-! # What a lane binding applies to

A binding ties a bot or a chat to a lane. In JSON a kind is its name as a string, or an object with
that name as its one key and null as its content. -/

namespace Laneway

/-- The kind of entity a lane is bound to. -/
inductive RouteType where
  /-- A bot, keyed by its name. -/
  | bot
  /-- A chat, keyed by its id. -/
  | chat
deriving DecidableEq, Repr

namespace RouteType

def name : RouteType → String
  | .bot => "bot"
  | .chat => "chat"

def ofName? (text : String) : Option RouteType :=
  if text = "bot" then some .bot else if text = "chat" then some .chat else none

@[simp] theorem ofName?_name (kind : RouteType) : ofName? kind.name = some kind := by
  cases kind <;> rfl

/-- Reads the name of a kind after its opening quote. -/
def readName : Json.Reader RouteType := fun input => do
  let (text, rest) ← Json.readString input
  match ofName? text with
  | some kind => .ok (kind, rest)
  | none => .error .mismatched

/-- Reads the content after a name used as a key: a colon, null and the closing brace. -/
def readContent (kind : RouteType) : Json.Reader RouteType := fun input =>
  match Json.skipBlank input with
  | [] => .error .truncated
  | 0x3A :: rest =>
    match Json.skipBlank rest with
    | 0x6E :: rest => do
      let rest ← Json.readWord [0x75, 0x6C, 0x6C] rest
      match Json.skipBlank rest with
      | [] => .error .truncated
      | 0x7D :: rest => .ok (kind, rest)
      | _ => .error .malformed
    | rest => .error (Json.wrongShape rest)
  | _ => .error .malformed

/-- Reads a kind in either form. -/
def readKind : Json.Reader RouteType := fun input =>
  match Json.skipBlank input with
  | [] => .error .truncated
  | 0x22 :: rest => readName rest
  | 0x7B :: rest =>
    match Json.skipBlank rest with
    | 0x22 :: rest => do
      let (kind, rest) ← readName rest
      readContent kind rest
    | rest => .error (Json.wrongShape rest)
  | _ => .error .malformed

def read (bytes : List UInt8) : Except Json.ReadError RouteType := do
  let (kind, rest) ← readKind bytes
  Json.finish kind rest

/-- The JSON form that is written. -/
def json (kind : RouteType) : Json := .str kind.name

end RouteType

end Laneway
