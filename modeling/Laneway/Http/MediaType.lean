import Laneway.Http.Headers

set_option autoImplicit false

/-! # Media types

A media type is a type and a subtype, which may end in a suffix after a plus sign, and parameters.
Only one question is asked of it: whether it stands for JSON. -/

namespace Laneway.Http

/-- A media type without its parameters, in lower case. -/
structure MediaType where
  type : String
  /-- The subtype before its last plus sign, if there is one. -/
  subtype : String
  /-- What follows the last plus sign. -/
  suffixName : Option String
deriving DecidableEq, Repr

namespace MediaType

def isTokenChar (c : Char) : Bool := c.isAlphanum || "!#$%&'*+-.^_\x60|~".toList.contains c

def isQuotedChar (c : Char) : Bool := 0x1F < c.toNat && c.toNat ≠ 0x7F

/-- What follows the quoted value of a parameter: its first character is never the closing quote.
    `none` when no quote closes it. -/
def afterQuoted? : (first : Bool) → List Char → Option (List Char)
  | _, [] => none
  | first, c :: rest =>
    if c = '"' ∧ !first then some rest
    else if isQuotedChar c then afterQuoted? false rest else none

/-- Whether a list of parameters is well formed, up to the number of its characters. Each follows a
    semicolon, blank space may stand before its name, and an empty list may end in a semicolon. -/
def isParameters : (budget : Nat) → List Char → Bool
  | 0, cs => cs.isEmpty
  | _, [] => true
  | budget + 1, ' ' :: rest => isParameters budget rest
  | budget + 1, cs =>
    let name := cs.takeWhile isTokenChar
    match cs.drop name.length with
    | '=' :: '"' :: rest =>
      !name.isEmpty && match afterQuoted? true rest with
        | none => false
        | some rest =>
          match rest.dropWhile (· = ' ') with
          | [] => true
          | ';' :: rest => isParameters budget rest
          | _ => false
    | '=' :: rest =>
      let value := rest.takeWhile isTokenChar
      !name.isEmpty && match rest.drop value.length with
        | [] => true
        | ';' :: rest => !value.isEmpty && isParameters budget rest
        | _ => false
    | _ => false

/-- The subtype before and the suffix after its last plus sign, which is not its first character. -/
def splitSuffix (subtype : List Char) : String × Option String :=
  match subtype with
  | [] => ("", none)
  | first :: rest =>
    if rest.contains '+' then
      let suffixed := (rest.reverse.takeWhile (· ≠ '+')).reverse
      let stem := (rest.take (rest.length - suffixed.length - 1))
      (String.ofList (first :: stem), some (String.ofList suffixed))
    else (String.ofList subtype, none)

def parse? (text : String) : Option MediaType :=
  let cs := text.toList
  let type := cs.takeWhile isTokenChar
  match cs.drop type.length with
  | '/' :: rest =>
    let subtype := rest.takeWhile isTokenChar
    let parameters := rest.drop subtype.length
    let fine := match parameters with
      | [] => true
      | ';' :: ps => !subtype.isEmpty && isParameters ps.length ps
      | _ => false
    if type.isEmpty || !fine then none
    else
      let lower (cs : List Char) := cs.map Char.toLower
      let (stem, suffixName) := splitSuffix (lower subtype)
      some ⟨String.ofList (lower type), stem, suffixName⟩
  | _ => none

/-- Whether a media type stands for JSON, by its subtype or by its suffix. -/
def isJson (m : MediaType) : Bool :=
  m.type = "application" && (m.subtype = "json" || m.suffixName = some "json")

end MediaType

/-- Whether headers announce a JSON body. -/
def Headers.announceJson (headers : Headers) : Bool :=
  match ((headers.get? "content-type").bind Headers.readable?).bind MediaType.parse? with
  | some m => m.isJson
  | none => false

end Laneway.Http
