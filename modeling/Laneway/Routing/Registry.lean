import Laneway.Json.Reader
import Laneway.Routing.Topology

set_option autoImplicit false

/-! # What the service registry answers

The registry serves the table of services as JSON, either bare (services as members) or wrapped in
a `services` member. `Topology.read` tries the wrapped form on the whole value first and the bare
form only when that does not fit; so a wrapped table with a fault in it may still be read as the
entry of one service that is called `services`. -/

namespace Laneway.Routing

/-- The values of all members of one name. -/
def valuesOf (key : String) (members : List (String × Json)) : List Json :=
  (members.filter fun m => m.1 = key).map (·.2)

/-- The value of a member that may be missing, but not stand twice. -/
def memberOr {α : Type} (default : α) (decode : Json → Option α) (key : String)
    (members : List (String × Json)) : Option α :=
  match valuesOf key members with
  | [] => some default
  | [value] => decode value
  | _ => none

/-- The text of every item of an array. -/
def texts? : List Json → Option (List String)
  | [] => some []
  | item :: rest => do return (← item.str?) :: (← texts? rest)

namespace ServiceInfo

/-- A set of lanes, written as an array of strings. -/
def lanes? : Json → Option LaneSet
  | .arr items => (texts? items).map LaneSet.ofList
  | _ => none

/-- A port, written as a whole number. -/
def port? : Json → Option UInt16
  | .num (.whole n) => if 0 ≤ n.val ∧ n.val < 0x10000 then some (.ofNat n.val.toNat) else none
  | _ => none

/-- Reads an entry: an object with lanes and port, other members ignored, or an array of both in
    this order. Whatever is left out is empty, or zero. -/
def ofJson? : Json → Option ServiceInfo
  | .obj members => do
    return ⟨← memberOr ∅ lanes? "lanes" members, ← memberOr 0 port? "port" members⟩
  | .arr [] => some ⟨∅, 0⟩
  | .arr [lanes] => do return ⟨← lanes? lanes, 0⟩
  | .arr [lanes, port] => do return ⟨← lanes? lanes, ← port? port⟩
  | _ => none

end ServiceInfo

namespace Topology

/-- Reads the members of a bare table; a repeated name takes the last entry. -/
def ofMembers? : List (String × Json) → Option (List (String × ServiceInfo))
  | [] => some []
  | (service, value) :: rest => do
    return (service, ← ServiceInfo.ofJson? value) :: (← ofMembers? rest)

/-- Reads a bare table: an object of entries. -/
def ofJson? : Json → Option Topology
  | .obj members => (ofMembers? members).map ofList
  | _ => none

/-- Reads a wrapped table: an object with one `services` member, others ignored. -/
def ofWrapped? : Json → Option Topology
  | .obj members =>
    match valuesOf "services" members with
    | [value] => ofJson? value
    | _ => none
  | _ => none

/-- Reads a table in either form, the wrapped one first. -/
def ofAnswer? (value : Json) : Option Topology :=
  match ofWrapped? value with
  | some topology => some topology
  | none => ofJson? value

/-- Reads the body of an answer. -/
def read (body : List UInt8) : Except Json.ReadError Topology := do
  let (value, rest) ← Json.readValue Json.depthLimit body
  -- a value of neither form is refused before what may follow it is looked at
  match ofAnswer? value with
  | some topology => Json.finish topology rest
  | none => .error .mismatched

end Topology

/-! ## Where the registry is asked -/

structure Registry where
  /-- Its URL without slashes at the end. -/
  baseUrl : String
deriving DecidableEq

namespace Registry

/-- The characters of a text without the slashes at its end. -/
def trimSlashes (text : String) : String :=
  String.ofList (text.toList.reverse.dropWhile (· = '/')).reverse

def ofUrl (url : String) : Registry := ⟨trimSlashes url⟩

/-- Where the table of services is served. -/
def routesUrl (registry : Registry) : String := registry.baseUrl ++ "/v1/routes"

end Registry

end Laneway.Routing
