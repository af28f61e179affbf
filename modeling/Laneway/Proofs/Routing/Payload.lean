import Mathlib.Data.List.Forall2
import Laneway.Proofs.Json.Reading
import Laneway.Routing.Registry
import Laneway.Server.Handler

set_option autoImplicit false

/-! # Tables read back

A table is a finite map with an order: of its services, and of the lanes of each. Written as JSON
in that order, bare or wrapped, it reads back as the same table, so no order of the members and no
name of a service makes a difference. The one name that could is `services`: its entry might be
taken for a whole table. It never is, for that would make the port of the entry an entry itself, and
no number is one. -/

namespace Laneway.Routing

/-! ## Lanes and entries -/

theorem LaneSet.foldl_insert {lanes : LaneSet} {more : List String}
    (nodup : (lanes.toList ++ more).Nodup) :
    (more.foldl LaneSet.insert lanes).toList = lanes.toList ++ more := by
  induction more generalizing lanes with
  | nil => simp
  | cons lane more ih =>
    have fresh : lane ∉ lanes := fun h =>
      (List.nodup_append.1 nodup).2.2 lane h lane List.mem_cons_self rfl
    have inserted := LaneSet.toList_insert_of_notMem fresh
    rw [List.foldl_cons, ih, inserted, List.append_assoc, List.singleton_append]
    rwa [inserted, List.append_assoc, List.singleton_append]

theorem LaneSet.ext {a b : LaneSet} (same : a.toList = b.toList) : a = b := by
  cases a
  cases b
  simpa using same

/-- A set of lanes is the set of its list. -/
theorem LaneSet.ofList_toList (lanes : LaneSet) : LaneSet.ofList lanes.toList = lanes :=
  LaneSet.ext (LaneSet.foldl_insert lanes.nodup)

theorem texts?_map_str (texts : List String) : texts? (texts.map .str) = some texts := by
  induction texts with
  | nil => rfl
  | cons text texts ih => simp [texts?, ih, Json.str?]

namespace ServiceInfo

theorem port_lt (info : ServiceInfo) : info.port.toNat < 0x10000000000000000 :=
  Nat.lt_trans info.port.toNat_lt (by decide)

/-- The members an entry is written with. -/
def lanesMember (info : ServiceInfo) : String × Json := ("lanes", .arr (info.lanes.toList.map .str))

def portMember (info : ServiceInfo) : String × Json :=
  ("port", Json.ofNat info.port.toNat info.port_lt)

/-- An entry as an object of its two members, in either order. -/
inductive Written (info : ServiceInfo) : Json → Prop
  | lanesFirst : Written info (.obj [info.lanesMember, info.portMember])
  | portFirst : Written info (.obj [info.portMember, info.lanesMember])

theorem written_json (info : ServiceInfo) : info.Written info.json := .lanesFirst

theorem lanes?_lanesMember (info : ServiceInfo) :
    lanes? info.lanesMember.2 = some info.lanes := by
  simp [lanesMember, lanes?, texts?_map_str, LaneSet.ofList_toList]

theorem port?_portMember (info : ServiceInfo) : port? info.portMember.2 = some info.port := by
  have range : (0 : Int) ≤ info.port.toNat ∧ (info.port.toNat : Int) < 0x10000 := by
    have := info.port.toNat_lt
    omega
  simp only [portMember, Json.ofNat, port?, if_pos range, Int.toNat_natCast, UInt16.ofNat_toNat]

theorem Written.ofJson? {info : ServiceInfo} {value : Json} (written : info.Written value) :
    ofJson? value = some info := by
  have lanes := lanes?_lanesMember info
  have port := port?_portMember info
  have read (members : List (String × Json))
      (onlyLanes : valuesOf "lanes" members = [info.lanesMember.2])
      (onlyPort : valuesOf "port" members = [info.portMember.2]) :
      ServiceInfo.ofJson? (.obj members) = some info := by
    simp only [ServiceInfo.ofJson?, memberOr, onlyLanes, onlyPort, lanes, port]
    rfl
  cases written with
  | lanesFirst => exact read _ rfl rfl
  | portFirst => exact read _ rfl rfl

/-- The entry of a service does not pass for a table, for its port is no entry. -/
theorem Written.ofJson?_topology {info : ServiceInfo} {value : Json}
    (written : info.Written value) :
    Topology.ofJson? value = none := by
  have port : ServiceInfo.ofJson? info.portMember.2 = none := rfl
  cases written with
  | lanesFirst => simp [Topology.ofJson?, Topology.ofMembers?, port]
  | portFirst => simp [Topology.ofJson?, Topology.ofMembers?, port]

end ServiceInfo

/-! ## Tables -/

namespace Topology

theorem put_of_notMem {service : String} (info : ServiceInfo)
    {entries : List (String × ServiceInfo)} (fresh : service ∉ entries.map (·.1)) :
    put service info entries = entries ++ [(service, info)] := by
  induction entries with
  | nil => rfl
  | cons entry entries ih =>
    simp only [List.map_cons, List.mem_cons, not_or] at fresh
    rw [put, if_neg (Ne.symm fresh.1), ih fresh.2, List.cons_append]

theorem foldl_insert {table : Topology} {more : List (String × ServiceInfo)}
    (nodup : ((table.entries ++ more).map (·.1)).Nodup) :
    (more.foldl (fun table entry => table.insert entry.1 entry.2) table).entries =
      table.entries ++ more := by
  induction more generalizing table with
  | nil => simp
  | cons entry more ih =>
    have fresh : entry.1 ∉ table.entries.map (·.1) := by
      rw [List.map_append, List.nodup_append] at nodup
      exact fun h => nodup.2.2 entry.1 h entry.1 (by simp) rfl
    have inserted : (table.insert entry.1 entry.2).entries = table.entries ++ [entry] :=
      put_of_notMem entry.2 fresh
    rw [List.foldl_cons, ih, inserted, List.append_assoc, List.singleton_append]
    rwa [inserted, List.append_assoc, List.singleton_append]

theorem ext {a b : Topology} (same : a.entries = b.entries) : a = b := by
  cases a
  cases b
  simpa using same

/-- A table is the table of its entries. -/
theorem ofList_entries (table : Topology) : ofList table.entries = table :=
  ext (foldl_insert table.nodup)

/-- Members that show entries one by one. -/
abbrev Shows (entries : List (String × ServiceInfo)) (members : List (String × Json)) : Prop :=
  List.Forall₂ (fun entry m => m.1 = entry.1 ∧ entry.2.Written m.2) entries members

/-- A table as an object of its entries, in its order. -/
def Written (table : Topology) (value : Json) : Prop :=
  ∃ members, value = .obj members ∧ Shows table.entries members

theorem written_json (table : Topology) : table.Written table.json := by
  refine ⟨_, rfl, ?_⟩
  rw [Shows, List.forall₂_map_right_iff, List.forall₂_same]
  exact fun entry _ => ⟨rfl, entry.2.written_json⟩

/-- The value that wraps a table. -/
def wrapped (value : Json) : Json := .obj [("services", value)]

theorem ofMembers?_of_shows {entries : List (String × ServiceInfo)} {members : List (String × Json)}
    (shows : Shows entries members) : ofMembers? members = some entries := by
  induction shows with
  | nil => rfl
  | @cons entry m _ _ written _ ih =>
    obtain ⟨name, info⟩ := entry
    obtain ⟨key, value⟩ := m
    obtain ⟨rfl, written⟩ := written
    simp [ofMembers?, written.ofJson?, ih]

/-- Whatever a member holds is the entry of some service. -/
theorem written_of_mem {entries : List (String × ServiceInfo)} {members : List (String × Json)}
    (shows : Shows entries members) {m : String × Json} (hm : m ∈ members) :
    ∃ info : ServiceInfo, info.Written m.2 := by
  induction shows with
  | nil => simp at hm
  | @cons entry first _ _ written _ ih =>
    rcases List.mem_cons.1 hm with rfl | later
    · exact ⟨entry.2, written.2⟩
    · exact ih later

theorem Written.ofJson? {table : Topology} {value : Json} (written : table.Written value) :
    ofJson? value = some table := by
  obtain ⟨members, rfl, shows⟩ := written
  rw [Topology.ofJson?, ofMembers?_of_shows shows, Option.map_some, ofList_entries]

/-- A bare table does not pass for a wrapped one: what it holds under `services`, if anything, is
    an entry. -/
theorem Written.ofWrapped? {table : Topology} {value : Json} (written : table.Written value) :
    ofWrapped? value = none := by
  obtain ⟨members, rfl, shows⟩ := written
  rw [Topology.ofWrapped?]
  split
  · next held only =>
    have member : held ∈ valuesOf "services" members := by simp [only]
    obtain ⟨m, hm, rfl⟩ := List.mem_map.1 member
    obtain ⟨info, entry⟩ := written_of_mem shows (List.mem_of_mem_filter hm)
    exact entry.ofJson?_topology
  · rfl

theorem Written.readable {table : Topology} {value : Json} (written : table.Written value)
    (depth : Nat) : Json.Readable Json.readNumber (depth + 3) value := by
  obtain ⟨members, rfl, shows⟩ := written
  refine .obj fun m hm => ?_
  obtain ⟨info, entry⟩ := written_of_mem shows hm
  have lanes : Json.Readable Json.readNumber (depth + 1) info.lanesMember.2 := by
    refine .arr fun item hm => ?_
    obtain ⟨lane, -, rfl⟩ := List.mem_map.1 hm
    exact .str lane
  have port : Json.Readable Json.readNumber (depth + 1) info.portMember.2 :=
    .num (Json.Number.readBy_readNumber _)
  generalize m.2 = value at entry
  cases entry with
  | lanesFirst => exact .obj (by simp [lanes, port])
  | portFirst => exact .obj (by simp [lanes, port])

/-- What reads as a table reads so from its bytes. -/
theorem read_bytes {table : Topology} {value : Json}
    (readable : Json.Readable Json.readNumber Json.depthLimit value)
    (answers : ofAnswer? value = some table) : read value.bytes = .ok table := by
  simp [read, readable.readValue_bytes, answers, Json.finish, Json.skipBlank, bind, Except.bind]

theorem Written.read {table : Topology} {value : Json} (written : table.Written value) :
    read value.bytes = .ok table ∧ read (wrapped value).bytes = .ok table := by
  have bare : ofAnswer? value = some table := by
    rw [ofAnswer?, written.ofWrapped?, written.ofJson?]
  have inside : ofAnswer? (wrapped value) = some table := by
    have only : valuesOf "services" [("services", value)] = [value] := rfl
    simp only [ofAnswer?, wrapped, Topology.ofWrapped?, only, written.ofJson?]
  refine ⟨read_bytes (written.readable 124) bare, read_bytes (.obj ?_) inside⟩
  simpa using written.readable 123

/-- A table that is written in JSON, in any order of its members, reads back as the same table, bare
    or wrapped; and what the server shows as its table is that table written in JSON. -/
theorem reads_back (table : Topology) :
    (∀ value, table.Written value →
      read value.bytes = .ok table ∧ read (wrapped value).bytes = .ok table) ∧
    (∀ (app : Server.App) (fresh : Server.Fresh) (request : Server.Incoming),
      app.topology = table → request.method = "GET" → request.path = "/api/internal/routes" →
      ∃ value, app.handle fresh request = (.ok value, none) ∧ table.Written value) := by
  refine ⟨fun value written => written.read, ?_⟩
  rintro app fresh request rfl get path
  have route : Server.Route.ofPath request.path = some .services := by rw [path]; rfl
  refine ⟨app.topology.json, ?_, app.topology.written_json⟩
  simp [Server.App.handle, Server.App.dispatch, route, get, Server.App.answer, Server.Route.methods]

/-- Services that are called like the members tables and entries are written with. -/
def namesakes : Topology :=
  ⟨[("services", ⟨⟨["prod", "feat-x"], by decide⟩, 0⟩), ("lanes", ⟨⟨[""], by decide⟩, 80⟩),
    ("port", ⟨⟨[], by decide⟩, 65535⟩)], by decide⟩

/-- Their table as JSON, the port of some entries first. -/
def namesakesJson : Json :=
  .obj [
    ("services", .obj [("port", .ofNat 0), ("lanes", .arr [.str "prod", .str "feat-x"])]),
    ("lanes", .obj [("lanes", .arr [.str ""]), ("port", .ofNat 80)]),
    ("port", .obj [("port", .ofNat 65535), ("lanes", .arr [])])]

theorem reads_back_namesakes :
    namesakes.Written namesakesJson ∧ read namesakesJson.bytes = .ok namesakes ∧
      read (wrapped namesakesJson).bytes = .ok namesakes := by
  have written : namesakes.Written namesakesJson :=
    ⟨_, rfl, .cons ⟨rfl, .portFirst⟩ (.cons ⟨rfl, .lanesFirst⟩ (.cons ⟨rfl, .portFirst⟩ .nil))⟩
  exact ⟨written, (reads_back namesakes).1 namesakesJson written⟩

end Topology

end Laneway.Routing
