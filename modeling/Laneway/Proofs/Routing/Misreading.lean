import Laneway.Proofs.Json.Members
import Laneway.Proofs.Routing.Replacement

set_option autoImplicit false

/-! # Wrapped tables with a fault in them

An answer that wraps a table is taken for a bare one when the table does not read. The object it
wraps is then the entry of one service, called `services`, and an object without `lanes` and `port`
is an entry whatever else it holds. So one faulty entry among many is not a failure: the table of
that one service replaces the one before, and every service of the wrapped table is gone. Only
another member of the answer that is no entry prevents this. -/

namespace Laneway.Routing

namespace Topology

/-- The value reads as the entry of a service. -/
def IsEntry (value : Json) : Prop := (ServiceInfo.ofJson? value).isSome

instance (value : Json) : Decidable (IsEntry value) :=
  inferInstanceAs (Decidable ((ServiceInfo.ofJson? value).isSome = true))

/-- The table has the services that the members describe, and no other. -/
structure Describes (members : List (String × Json)) (table : Topology) : Prop where
  entries : ∀ m ∈ members, IsEntry m.2
  get? : ∀ name, table.get? name = ((Json.obj members).get? name).bind ServiceInfo.ofJson?

/-- The body is an object with these members. The only one of them that is called `services` is an
    object with members of its own, and none of these is called like the members of an entry. -/
structure Wraps (body : List UInt8) (members services : List (String × Json)) : Prop where
  reads : Json.readRaw body = .ok (.obj members)
  only : valuesOf "services" members = [.obj services]
  inhabited : services ≠ []
  apart : ∀ m ∈ services, m.1 ≠ "lanes" ∧ m.1 ≠ "port"

/-- The body is refused, and a fetch that it answers keeps the table. -/
structure Refused (body : List UInt8) : Prop where
  fails : ∃ e, read body = .error e
  keeps : ∀ (p : Polling) id origin status,
    p.fetches.lookup id = some ⟨origin, some (.ok ⟨status, body⟩)⟩ →
      ∃ p', p.step (.complete id) = some (p', .refreshed id false) ∧ p'.topology = p.topology

/-- The body is either refused or read as the table of these services. -/
def Faithful (body : List UInt8) (services : List (String × Json)) : Prop :=
  Refused body ∨ ∃ table, read body = .ok table ∧ Describes services table

/-! ## Reading a body -/

theorem refused_of_error {body : List UInt8} {e : Json.ReadError} (fails : read body = .error e) :
    Refused body where
  fails := ⟨e, fails⟩
  keeps := by
    intro p id origin status found
    have unserved : ∀ table, ¬ Serves (.ok ⟨status, body⟩) table := by
      rintro table ⟨response, same, -, -, reads⟩
      cases same
      exact nomatch fails.symm.trans reads
    refine ⟨_, Polling.adopt_of_not_serves unserved ▸ Polling.step_complete found, ?_⟩
    simp only [Polling.taking, Polling.adopt_of_not_serves unserved]

/-- What comes of a JSON value. -/
def answered (value : Json) : Except Json.ReadError Topology :=
  match ofAnswer? value with
  | some table => .ok table
  | none => .error .mismatched

/-- A body that is one JSON value is read as that value, and any other is refused. -/
theorem read_cases (body : List UInt8) :
    (∃ value, Json.readRaw body = .ok value ∧ read body = answered value) ∨
      ∃ e e', Json.readRaw body = .error e ∧ read body = .error e' := by
  cases front : Json.readValue Json.depthLimit body with
  | error e => exact .inr ⟨e, e, by rw [Json.readRaw, front]; rfl, by rw [read, front]; rfl⟩
  | ok found =>
    obtain ⟨value, rest⟩ := found
    have raw : Json.readRaw body = Json.finish value rest := by
      rw [Json.readRaw, front]
      rfl
    have table : read body = match ofAnswer? value with
        | some table => Json.finish table rest
        | none => .error .mismatched := by
      rw [read, front]
      rfl
    rw [raw, table]
    by_cases blank : (Json.skipBlank rest).isEmpty = true
    · left
      refine ⟨value, if_pos blank, ?_⟩
      unfold answered
      cases ofAnswer? value with
      | none => rfl
      | some table => exact if_pos blank
    · right
      refine ⟨.malformed, ?_⟩
      cases ofAnswer? value with
      | none => exact ⟨.mismatched, if_neg blank, rfl⟩
      | some table => exact ⟨.malformed, if_neg blank, if_neg blank⟩

theorem read_of_readRaw {body : List UInt8} {value : Json} (reads : Json.readRaw body = .ok value) :
    read body = answered value := by
  rcases read_cases body with ⟨value', raw, read⟩ | ⟨e, e', raw, -⟩
  · cases reads.symm.trans raw
    exact read
  · exact nomatch reads.symm.trans raw

/-! ## Tables and their members -/

section Members

variable {members : List (String × Json)} {entries : List (String × ServiceInfo)}

/-- A list of members reads when each of them is an entry. -/
theorem ofMembers?_isSome_iff : (ofMembers? members).isSome ↔ ∀ m ∈ members, IsEntry m.2 := by
  induction members with
  | nil => simp [ofMembers?]
  | cons m rest ih =>
    obtain ⟨name, value⟩ := m
    rw [List.forall_mem_cons, ← ih, ofMembers?, IsEntry]
    cases ServiceInfo.ofJson? value with
    | none => simp
    | some info => cases ofMembers? rest <;> simp

theorem isEntry_of_get? (all : ∀ m ∈ members, IsEntry m.2) {name : String} {value : Json}
    (found : (Json.obj members).get? name = some value) : IsEntry value := by
  simp only [Json.get?, List.findRev?_eq_find?_reverse, Option.map_eq_some_iff] at found
  obtain ⟨m, found, rfl⟩ := found
  exact all m (List.mem_reverse.1 (List.mem_of_find?_eq_some found))

/-- Entries that are put into a table one by one come over what was there, the last of each name. -/
theorem get?_foldl_insert (reads : ofMembers? members = some entries) (table : Topology)
    (name : String) :
    (entries.foldl (fun table entry => table.insert entry.1 entry.2) table).get? name =
      (((Json.obj members).get? name).bind ServiceInfo.ofJson?).or (table.get? name) := by
  induction members generalizing entries table with
  | nil =>
    cases reads
    rfl
  | cons m rest ih =>
    obtain ⟨key, value⟩ := m
    have all := ofMembers?_isSome_iff.1 (Option.isSome_of_eq_some reads)
    simp only [ofMembers?, Option.bind_eq_bind, Option.bind_eq_some_iff] at reads
    obtain ⟨info, read, more, reads, same⟩ := reads
    cases same
    rw [List.foldl_cons, ih reads, get?_insert, Json.get?_cons]
    cases later : (Json.obj rest).get? name with
    | none => by_cases h : name = key <;> simp [h, read]
    | some last =>
      have entry : IsEntry last :=
        isEntry_of_get? (fun m hm => all m (List.mem_cons_of_mem _ hm)) later
      obtain ⟨info', read'⟩ := Option.isSome_iff_exists.1 entry
      simp [read']

/-- The table that members read as has the services they describe. -/
theorem describes_ofList (reads : ofMembers? members = some entries) :
    Describes members (ofList entries) where
  entries := ofMembers?_isSome_iff.1 (Option.isSome_of_eq_some reads)
  get? name := by
    rw [ofList, get?_foldl_insert reads, get?_empty, Option.or_none]

/-- Of a key that stands once, the value is the one held under it. -/
theorem get?_of_valuesOf {key : String} {value : Json} (only : valuesOf key members = [value]) :
    (Json.obj members).get? key = some value := by
  obtain ⟨m, same, rfl⟩ : ∃ m, members.filter (fun m => m.1 = key) = [m] ∧ m.2 = value := by
    simpa [valuesOf, List.map_eq_singleton_iff] using only
  have last : members.reverse.find? (fun m => m.1 == key) = some m := by
    rw [← List.head?_filter, List.filter_reverse, List.head?_reverse]
    exact congrArg List.getLast? same
  rw [Json.get?, List.findRev?_eq_find?_reverse, last, Option.map_some]

end Members

/-! ## The two forms of an answer -/

section Wraps

variable {body : List UInt8} {members services : List (String × Json)}

/-- The object that is wrapped passes for the entry of a service. -/
theorem Wraps.ofJson? (wraps : Wraps body members services) :
    ServiceInfo.ofJson? (.obj services) = some ⟨∅, 0⟩ := by
  have missing (key : String) (h : ∀ m ∈ services, m.1 ≠ key) : valuesOf key services = [] := by
    simpa [valuesOf, List.filter_eq_nil_iff] using fun name value hm => h (name, value) hm
  simp [ServiceInfo.ofJson?, memberOr, missing "lanes" fun m hm => (wraps.apart m hm).1,
    missing "port" fun m hm => (wraps.apart m hm).2]

theorem Wraps.read_eq (wraps : Wraps body members services) :
    read body = match (ofMembers? services).or (ofMembers? members) with
      | some entries => .ok (ofList entries)
      | none => .error .mismatched := by
  rw [read_of_readRaw wraps.reads, answered, ofAnswer?, ofWrapped?, wraps.only]
  simp only [Topology.ofJson?]
  cases ofMembers? services with
  | some entries => rfl
  | none => cases ofMembers? members <;> rfl

/-- A body is read as what it wraps, or else as what it is made of, and refused when neither of them
    is a table. -/
theorem Wraps.read_cases (wraps : Wraps body members services) :
    ((∀ m ∈ services, IsEntry m.2) ∧ ∃ table, read body = .ok table ∧ Describes services table) ∨
    (¬ ∀ m ∈ services, IsEntry m.2) ∧
      (((∃ m ∈ members, ¬ IsEntry m.2) ∧ Refused body) ∨
        (∀ m ∈ members, IsEntry m.2) ∧ ∃ table, read body = .ok table ∧ Describes members table) := by
  have reads := wraps.read_eq
  cases wrapped : ofMembers? services with
  | some entries =>
    rw [wrapped, Option.some_or] at reads
    have describes := describes_ofList wrapped
    exact .inl ⟨describes.entries, _, reads, describes⟩
  | none =>
    rw [wrapped, Option.none_or] at reads
    have faulty : ¬ (ofMembers? services).isSome := by simp [wrapped]
    rw [ofMembers?_isSome_iff] at faulty
    refine .inr ⟨faulty, ?_⟩
    cases bare : ofMembers? members with
    | some entries =>
      rw [bare] at reads
      have describes := describes_ofList bare
      exact .inr ⟨describes.entries, _, reads, describes⟩
    | none =>
      rw [bare] at reads
      have stray : ¬ (ofMembers? members).isSome := by simp [bare]
      rw [ofMembers?_isSome_iff] at stray
      exact .inl ⟨by simpa using stray, refused_of_error reads⟩

theorem Wraps.faithful_iff (wraps : Wraps body members services) :
    Faithful body services ↔ (∀ m ∈ services, IsEntry m.2) ∨ ∃ m ∈ members, ¬ IsEntry m.2 := by
  rcases wraps.read_cases with ⟨all, read⟩ | ⟨faulty, ⟨stray, refused⟩ | ⟨all, table, reads, -⟩⟩
  · exact iff_of_true (.inr read) (.inl all)
  · exact iff_of_true (.inl refused) (.inr stray)
  · refine iff_of_false ?_ ?_
    · rintro (refused | ⟨table', -, describes⟩)
      · obtain ⟨e, fails⟩ := refused.fails
        exact nomatch fails.symm.trans reads
      · exact faulty describes.entries
    · rintro (entries | ⟨m, hm, stray⟩)
      · exact faulty entries
      · exact stray (all m hm)

/-- A member with a name that the table does not describe is missing from it. -/
theorem Describes.get?_eq_none {table : Topology} (describes : Describes members table)
    {name : String} (missing : ∀ m ∈ members, m.1 ≠ name) : table.get? name = none := by
  rw [describes.get?, Json.get?_eq_none missing, Option.bind_none]

end Wraps

/-- A body that wraps a table with a fault is refused only when it has another fault. Whatever is no
    JSON value is refused. A body that wraps a table is refused, or read as the table it wraps, if
    and only if every service of that table reads as an entry or some member of the body does not.
    Otherwise it replaces the table by the one that its own members make up, in which `services` is a
    service without lanes and port, and the services it wraps are missing. -/
theorem wrapped_faithful_iff (body : List UInt8) :
    (∀ e, Json.readRaw body = .error e → Refused body) ∧
    ∀ members services, Wraps body members services →
      (Faithful body services ↔ (∀ m ∈ services, IsEntry m.2) ∨ ∃ m ∈ members, ¬ IsEntry m.2) ∧
      (¬ Faithful body services → ∃ table, read body = .ok table ∧ Describes members table ∧
        table.get? "services" = some ⟨∅, 0⟩ ∧
        (∀ m ∈ services, (∀ other ∈ members, other.1 ≠ m.1) → table.get? m.1 = none) ∧
        ∀ kept status, 200 ≤ status → status < 300 →
          Polling.adopt kept (.ok ⟨status, body⟩) = (table, true)) := by
  refine ⟨?_, fun members services wraps => ⟨wraps.faithful_iff, fun unfaithful => ?_⟩⟩
  · intro e raw
    rcases read_cases body with ⟨value, raw', -⟩ | ⟨-, e', -, fails⟩
    · exact nomatch raw.symm.trans raw'
    · exact refused_of_error fails
  · obtain ⟨table, reads, describes⟩ :
        ∃ table, read body = .ok table ∧ Describes members table := by
      rcases wraps.read_cases with ⟨-, read⟩ | ⟨-, ⟨-, refused⟩ | ⟨-, read⟩⟩
      · exact absurd (.inr read) unfaithful
      · exact absurd (.inl refused) unfaithful
      · exact read
    refine ⟨table, reads, describes, ?_, ?_, ?_⟩
    · rw [describes.get?, get?_of_valuesOf wraps.only, Option.bind_some, wraps.ofJson?]
    · exact fun m _ missing => describes.get?_eq_none missing
    · exact fun kept status low high => Polling.adopt_of_serves ⟨_, rfl, low, high, reads⟩

/-- Two services, one of them with a port out of range. -/
def faultyServices : List (String × Json) :=
  [("web", .obj [("lanes", .arr [.str "feat-x"]), ("port", .ofNat 3000)]),
    ("svc", .obj [("port", .ofNat 70000)])]

def faultyText : String :=
  "\"services\":\x7b\"web\":\x7b\"lanes\":[\"feat-x\"],\"port\":3000\x7d,"
    ++ "\"svc\":\x7b\"port\":70000\x7d\x7d"

/-- An answer that wraps these services, and one that also says when it was made. -/
def faultyBody : List UInt8 := utf8 ("\x7b" ++ faultyText ++ "\x7d")

def datedBody : List UInt8 := utf8 ("\x7b" ++ faultyText ++ ",\"updated_at\":\"2024-01-01\"\x7d")

/-- The date is no entry, so the answer that tells it is refused. -/
theorem wrapped_faithful_iff_dated :
    Wraps datedBody [("services", .obj faultyServices), ("updated_at", .str "2024-01-01")]
        faultyServices ∧ Faithful datedBody faultyServices := by
  have wraps : Wraps datedBody
      [("services", .obj faultyServices), ("updated_at", .str "2024-01-01")] faultyServices :=
    ⟨rfl, rfl, by simp [faultyServices], by decide⟩
  have stray : ∃ m ∈ [("services", Json.obj faultyServices), ("updated_at", .str "2024-01-01")],
      ¬ IsEntry m.2 := ⟨("updated_at", .str "2024-01-01"), by simp, by decide⟩
  exact ⟨wraps, ((wrapped_faithful_iff datedBody).2 _ _ wraps).1.2 (.inr stray)⟩

/-- The answer without a date is taken for the table of one service called `services`, although the
    entry of `web` has no fault. -/
theorem unfaithful_of_faulty_port :
    Wraps faultyBody [("services", .obj faultyServices)] faultyServices ∧
      ¬ Faithful faultyBody faultyServices ∧
        read faultyBody = .ok (.ofList [("services", ⟨∅, 0⟩)]) := by
  have wraps : Wraps faultyBody [("services", .obj faultyServices)] faultyServices :=
    ⟨rfl, rfl, by simp [faultyServices], by decide⟩
  refine ⟨wraps, ?_, rfl⟩
  rw [wraps.faithful_iff]
  decide

end Topology

end Laneway.Routing
