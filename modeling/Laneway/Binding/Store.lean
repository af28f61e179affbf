import Laneway.RouteType

set_option autoImplicit false

/-! # Where lane bindings are stored

A store is asked for one bot or chat at a time and answers with the lane it is bound to, with
nothing when there is no active binding, or not at all. -/

namespace Laneway.Binding

structure Key where
  kind : RouteType
  name : String
deriving DecidableEq, Repr

/-- Why a store did not answer. -/
inductive Fault where
  /-- The database refused or failed. -/
  | database (message : String)
  /-- A required column holds nothing. -/
  | missingColumn
  | unavailable (reason : String)
deriving DecidableEq, Repr

/-- The fault in words; the wording of a missing column is not part of it. -/
def Fault.message : Fault → Option String
  | .database message => some ("Database error: " ++ message)
  | .missingColumn => none
  | .unavailable reason => some ("Lane store unavailable: " ++ reason)

/-- What a store answers: the lane, if any. -/
abbrev Answer := Except Fault (Option String)

/-- A store as it answers at one moment. -/
abbrev Store := Key → Answer

/-! ## A store in memory -/

/-- Bindings in memory, which may be out of order. -/
structure Table where
  /-- The bindings, one lane for each key. -/
  entries : List (Key × String)
  /-- Why no lookup succeeds, while that is so. -/
  outage : Option Fault

namespace Table

def empty : Table := ⟨[], none⟩

def unbind (table : Table) (key : Key) : Table :=
  { table with entries := table.entries.filter fun entry => entry.1 ≠ key }

def bind (table : Table) (key : Key) (lane : String) : Table :=
  { table with entries := (key, lane) :: (table.unbind key).entries }

def store (table : Table) : Store := fun key =>
  match table.outage with
  | some fault => .error fault
  | none => .ok (table.entries.lookup key)

end Table

end Laneway.Binding
