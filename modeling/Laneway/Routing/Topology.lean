import Laneway.Json.Printer

set_option autoImplicit false

/-! # The table of deployed services

A topology maps the name of a service to where it is deployed: the lanes that have their own
deployment of it, and its port. Names are unique, and so are the lanes of a service; both are kept
in the order they first came in. -/

namespace Laneway.Routing

/-! ## Lane sets -/

/-- Different lanes, in the order they came in. -/
structure LaneSet where
  toList : List String
  /-- No lane stands twice. -/
  nodup : toList.Nodup
deriving DecidableEq

namespace LaneSet

instance : EmptyCollection LaneSet := ⟨⟨[], List.nodup_nil⟩⟩

instance : Membership String LaneSet := ⟨fun lanes lane => lane ∈ lanes.toList⟩

instance (lanes : LaneSet) (lane : String) : Decidable (lane ∈ lanes) :=
  inferInstanceAs (Decidable (lane ∈ lanes.toList))

def insert (lanes : LaneSet) (lane : String) : LaneSet :=
  if h : lane ∈ lanes.toList then lanes
  else ⟨lanes.toList ++ [lane], by
    refine List.nodup_append.2 ⟨lanes.nodup, by simp, ?_⟩
    intro a ha b hb hab
    simp only [List.mem_singleton] at hb
    subst hab hb
    exact h ha⟩

/-- The lanes of a list, the first of each. -/
def ofList (lanes : List String) : LaneSet := lanes.foldl insert ∅

@[simp] theorem mem_insert {lanes : LaneSet} {lane other : String} :
    other ∈ lanes.insert lane ↔ other ∈ lanes ∨ other = lane := by
  show other ∈ (lanes.insert lane).toList ↔ other ∈ lanes.toList ∨ other = lane
  unfold insert
  split
  · rename_i h
    exact ⟨.inl, fun h' => h'.elim id fun e => e ▸ h⟩
  · simp

theorem toList_insert_of_notMem {lanes : LaneSet} {lane : String} (h : lane ∉ lanes) :
    (lanes.insert lane).toList = lanes.toList ++ [lane] := by
  have h' : lane ∉ lanes.toList := h
  simp [insert, h']

end LaneSet

/-! ## Services -/

/-- Where a service is deployed. -/
structure ServiceInfo where
  lanes : LaneSet
  /-- The port it listens on; zero when unknown. -/
  port : UInt16
deriving DecidableEq

namespace ServiceInfo

instance : Inhabited ServiceInfo := ⟨⟨∅, 0⟩⟩

def json (info : ServiceInfo) : Json :=
  .obj [("lanes", .arr (info.lanes.toList.map .str)),
    ("port", Json.ofNat info.port.toNat (Nat.lt_trans info.port.toNat_lt (by decide)))]

end ServiceInfo

/-! ## Tables -/

/-- The deployed services. -/
structure Topology where
  entries : List (String × ServiceInfo)
  /-- No name stands twice. -/
  nodup : (entries.map (·.1)).Nodup
deriving DecidableEq

namespace Topology

instance : EmptyCollection Topology := ⟨⟨[], List.nodup_nil⟩⟩

def get? (topology : Topology) (service : String) : Option ServiceInfo :=
  topology.entries.lookup service

/-- Replaces the entry of a service where it stands, or adds it at the end. -/
def put (service : String) (info : ServiceInfo) :
    List (String × ServiceInfo) → List (String × ServiceInfo)
  | [] => [(service, info)]
  | (name, old) :: rest =>
    if name = service then (name, info) :: rest else (name, old) :: put service info rest

theorem mem_map_put {service name : String} {info : ServiceInfo}
    {entries : List (String × ServiceInfo)} :
    name ∈ (put service info entries).map (·.1) ↔
      name ∈ entries.map (·.1) ∨ name = service := by
  induction entries with
  | nil => simp [put]
  | cons entry rest ih =>
    obtain ⟨first, old⟩ := entry
    by_cases h : first = service
    · subst h
      simp only [put, if_true, List.map_cons, List.mem_cons]
      exact ⟨.inl, fun h => h.elim id .inl⟩
    · simp only [put, if_neg h, List.map_cons, List.mem_cons, ih, or_assoc]

theorem nodup_put {service : String} {info : ServiceInfo} {entries : List (String × ServiceInfo)}
    (h : (entries.map (·.1)).Nodup) : ((put service info entries).map (·.1)).Nodup := by
  induction entries with
  | nil => simp [put]
  | cons entry rest ih =>
    obtain ⟨first, old⟩ := entry
    simp only [List.map_cons, List.nodup_cons] at h
    by_cases hs : first = service
    · subst hs
      simpa [put] using h
    · simp only [put, if_neg hs, List.map_cons, List.nodup_cons]
      exact ⟨fun hm => (mem_map_put.1 hm).elim h.1 hs, ih h.2⟩

def insert (topology : Topology) (service : String) (info : ServiceInfo) : Topology :=
  ⟨put service info topology.entries, nodup_put topology.nodup⟩

/-- The table of a list of entries, the last of each name. -/
def ofList (entries : List (String × ServiceInfo)) : Topology :=
  entries.foldl (fun topology entry => topology.insert entry.1 entry.2) ∅

@[simp] theorem get?_empty (service : String) : (∅ : Topology).get? service = none := rfl

theorem lookup_entry (name first : String) (info : ServiceInfo)
    (rest : List (String × ServiceInfo)) :
    ((first, info) :: rest).lookup name = if name = first then some info else rest.lookup name := by
  rw [List.lookup_cons]
  by_cases h : name = first
  · simp [h]
  · have : (name == first) = false := by simpa using h
    simp [h, this]

theorem lookup_put (service name : String) (info : ServiceInfo)
    (entries : List (String × ServiceInfo)) :
    (put service info entries).lookup name =
      if name = service then some info else entries.lookup name := by
  induction entries with
  | nil => simp [put, lookup_entry]
  | cons entry rest ih =>
    obtain ⟨first, old⟩ := entry
    by_cases hs : first = service
    · subst hs
      by_cases h : name = first <;> simp [put, lookup_entry, h]
    · by_cases h : name = first
      · subst h
        simp [put, hs]
      · simp [put, lookup_entry, hs, h, ih]

theorem get?_insert (topology : Topology) (service name : String) (info : ServiceInfo) :
    (topology.insert service info).get? name =
      if name = service then some info else topology.get? name :=
  lookup_put service name info topology.entries

/-- The JSON form: services as members. -/
def json (topology : Topology) : Json :=
  .obj (topology.entries.map fun entry => (entry.1, entry.2.json))

end Topology

end Laneway.Routing
