import Laneway.Decimal.Shortest
import Laneway.Text.Utf8

set_option autoImplicit false

/-! # JSON values

A number is a whole number in the range of the signed and unsigned 64-bit integers together, or a
finite double; the two stay apart (`1` is not `1.0`). The members of an object are kept as read, in
order and with repetitions; `Json.canonical` sorts them by key and lets the last repetition win,
which is the form every value is stored, compared and printed in. -/

namespace Laneway

/-- A whole number that a JSON literal can denote exactly. -/
structure Json.Whole where
  val : Int
  /-- It is a signed or an unsigned 64-bit integer. -/
  range : -0x8000000000000000 ≤ val ∧ val < 0x10000000000000000
deriving DecidableEq

/-- A double that is neither infinite nor a NaN. -/
structure Json.Real where
  val : Double
  finite : val.isFinite = true
deriving DecidableEq

inductive Json.Number where
  | whole (n : Json.Whole)
  | real (d : Json.Real)
deriving DecidableEq

/-- A JSON value. -/
inductive Json where
  | null
  | bool (b : Bool)
  | num (n : Json.Number)
  | str (s : String)
  | arr (items : List Json)
  | obj (members : List (String × Json))

namespace Json

/-- The whole number `i`, when a JSON literal can denote it exactly. -/
def ofInt? (i : Int) : Option Json :=
  if h : -0x8000000000000000 ≤ i ∧ i < 0x10000000000000000 then some (.num (.whole ⟨i, h⟩))
  else none

/-- The JSON value of a natural number below `2 ^ 64`. -/
def ofNat (n : Nat) (h : n < 0x10000000000000000 := by omega) : Json := .num (.whole ⟨n, by omega⟩)

/-- The value of a double; infinities and NaN have none and read as null. -/
def ofDouble (d : Double) : Json :=
  if h : d.isFinite = true then .num (.real ⟨d, h⟩) else .null

def str? : Json → Option String
  | .str s => some s
  | _ => none

/-- A member of an object, the last one of that name. -/
def get? (key : String) : Json → Option Json
  | .obj members => (members.findRev? fun m => m.1 == key).map (·.2)
  | _ => none

/-! ## Sorted members -/

/-- Puts a member into a list sorted by key, over any member of that key. -/
def insertMember {α : Type} (key : String) (value : α) : List (String × α) → List (String × α)
  | [] => [(key, value)]
  | (k, v) :: rest =>
    if key < k then (key, value) :: (k, v) :: rest
    else if key = k then (key, value) :: rest
    else (k, v) :: insertMember key value rest

/-- The members sorted by key, the last of each key. -/
def sortMembers {α : Type} (members : List (String × α)) : List (String × α) :=
  members.foldl (fun sorted m => insertMember m.1 m.2 sorted) []

mutual

/-- The value with every object's members sorted by key, one of each key. -/
def canonical : Json → Json
  | .arr items => .arr (canonicalItems items)
  | .obj members => .obj (sortMembers (canonicalMembers members))
  | value => value

def canonicalItems : List Json → List Json
  | [] => []
  | item :: rest => canonical item :: canonicalItems rest

def canonicalMembers : List (String × Json) → List (String × Json)
  | [] => []
  | (key, value) :: rest => (key, canonical value) :: canonicalMembers rest

end

end Json

end Laneway
