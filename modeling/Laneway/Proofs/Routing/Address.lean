import Laneway.Proofs.Json.Reading
import Laneway.Routing.Target

set_option autoImplicit false

/-! # The address of a service

The URL of a service is written from its name, the lane and the port, and read again when a request
is built. For ordinary names nothing is lost on the way: the URL is valid and the host and the port
in it are the ones that were written, whatever path follows. -/

namespace Laneway.Http

/-! ## Ordinary host names -/

/-- A character of an ordinary host name: a small letter, a digit, a hyphen or a full stop. -/
def isNameChar (c : Char) : Bool := ('a' ≤ c && c ≤ 'z') || c.isDigit || c = '-' || c = '.'

/-- A host name that is its own canonical form. -/
structure OrdinaryHost (name : String) : Prop where
  chars : ∀ c ∈ name.toList, isNameChar c = true
  nonempty : name ≠ ""
  /-- Its last label is no number, so that it is no address. -/
  named : Ipv4.endsInNumber name.toList = false

theorem toNat_lt_of_isNameChar {c : Char} (name : isNameChar c = true) : c.toNat < 0x80 := by
  simp only [isNameChar, Bool.or_eq_true, Bool.and_eq_true, decide_eq_true_eq] at name
  rcases name with ((⟨-, letter⟩ | digit) | rfl) | rfl
  · exact Nat.lt_of_le_of_lt letter (by decide)
  · exact Nat.lt_of_le_of_lt (Json.toNat_of_isDigit digit).2 (by decide)
  · decide
  · decide

/-- What holds of the few characters of ordinary names is found by trying them. -/
theorem of_isNameChar {P : Char → Prop}
    (all : ∀ n < 0x80, isNameChar (Char.ofNat n) = true → P (Char.ofNat n)) {c : Char}
    (name : isNameChar c = true) : P c := by
  have holds := all c.toNat (toNat_lt_of_isNameChar name)
  rw [Char.ofNat_toNat] at holds
  exact holds name

/-- A character of which reading a host makes nothing but itself. -/
structure Inert (c : Char) : Prop where
  visible : 0x20 < c.toNat
  /-- It begins and ends no part of a URL. -/
  inside : c ≠ '[' ∧ c ≠ ']' ∧ c ≠ ':' ∧ c ≠ '@' ∧ c ≠ '?' ∧ c ≠ '#' ∧ c ≠ '%' ∧
    Url.isSlash c = false
  lowered : (if Domain.isFullStop c then '.' else c.toLower) = c
  allowed : Domain.isForbidden c = false

theorem inert_of_isNameChar {c : Char} (name : isNameChar c = true) : Inert c := by
  obtain ⟨visible, inside, lowered, allowed⟩ :=
    of_isNameChar (P := fun c => 0x20 < c.toNat ∧ (c ≠ '[' ∧ c ≠ ']' ∧ c ≠ ':' ∧ c ≠ '@' ∧
      c ≠ '?' ∧ c ≠ '#' ∧ c ≠ '%' ∧ Url.isSlash c = false) ∧
      (if Domain.isFullStop c then '.' else c.toLower) = c ∧ Domain.isForbidden c = false)
      (by decide) name
  exact ⟨visible, inside, lowered, allowed⟩

theorem utf8_ascii {chars : List Char} (ascii : ∀ c ∈ chars, c.toNat < 0x80) :
    utf8 (String.ofList chars) = chars.map fun c => UInt8.ofNat c.toNat := by
  rw [Json.utf8_ofList]
  induction chars with
  | nil => rfl
  | cons c rest ih =>
    rw [Json.encoded_cons, Json.utf8EncodeChar_ascii (ascii c List.mem_cons_self),
      ih fun c hc => ascii c (List.mem_cons_of_mem _ hc)]
    rfl

/-- What joined parts hold. -/
theorem mem_intercalate {α : Type} (separator : List α) {part : List α} {parts : List (List α)}
    (mem : part ∈ parts) {a : α} (ha : a ∈ part) : a ∈ separator.intercalate parts := by
  have inside : part ∈ parts.intersperse separator := by
    induction parts with
    | nil => exact nomatch mem
    | cons first rest ih =>
      cases rest with
      | nil => exact mem
      | cons second rest =>
        rw [List.intersperse_cons_cons]
        rcases List.mem_cons.1 mem with rfl | mem
        · exact List.mem_cons_self
        · exact List.mem_cons_of_mem _ (List.mem_cons_of_mem _ (ih mem))
  exact List.mem_flatten.2 ⟨part, inside, ha⟩

namespace OrdinaryHost

variable {name : String}

/-- The ASCII form of an ordinary name is the name. -/
theorem ascii?_toList (ordinary : OrdinaryHost name) :
    Domain.ascii? name.toList = some name.toList := by
  have lowered : (name.toList.map fun c => if Domain.isFullStop c then '.' else c.toLower) =
      name.toList := by
    have same := List.map_congr_left fun c hc => (inert_of_isNameChar (ordinary.chars c hc)).lowered
    rwa [List.map_id'] at same
  have allowed : name.toList.any Domain.isForbidden = false := by
    rw [List.any_eq_false]
    intro c hc
    rw [(inert_of_isNameChar (ordinary.chars c hc)).allowed]
    decide
  have labels : (name.toList.splitOn '.').map Domain.labelText = name.toList.splitOn '.' := by
    have same : ∀ label ∈ name.toList.splitOn '.', Domain.labelText label = label := by
      intro label mem
      refine if_pos (List.all_eq_true.2 fun c hc => decide_eq_true ?_)
      have inside := mem_intercalate ['.'] mem hc
      rw [List.intercalate_splitOn] at inside
      exact toNat_lt_of_isNameChar (ordinary.chars c inside)
    have mapped := List.map_congr_left same
    rwa [List.map_id'] at mapped
  simp only [Domain.ascii?, lowered, allowed, labels, List.intercalate_splitOn]
  rfl

/-- An ordinary name is read as it is written. -/
theorem host?_toList (ordinary : OrdinaryHost name) : host? name.toList = some name := by
  have some : name.toList ≠ [] := by
    intro empty
    exact ordinary.nonempty (String.toList_eq_nil_iff.1 empty)
  have noBracket : ∀ rest, name.toList ≠ '[' :: rest := by
    intro rest written
    have first : '[' ∈ name.toList := by simp [written]
    exact (inert_of_isNameChar (ordinary.chars _ first)).inside.1 rfl
  have noPercent : 0x25 ∉ utf8 name := by
    rw [← String.ofList_toList (s := name),
      utf8_ascii fun c hc => toNat_lt_of_isNameChar (ordinary.chars c hc), List.mem_map]
    rintro ⟨c, hc, percent⟩
    have value := congrArg UInt8.toNat percent
    rw [Json.toNat_ofNat_ascii (toNat_lt_of_isNameChar (ordinary.chars c hc))] at value
    have : c = '%' := Char.toNat_inj.1 value
    exact (inert_of_isNameChar (ordinary.chars c hc)).inside.2.2.2.2.2.2.1 this
  unfold host?
  split
  · next written => exact absurd written (noBracket _)
  · rw [String.ofList_toList, Percent.decode_of_notMem noPercent, Utf8.text?_utf8]
    simp [ordinary.ascii?_toList, ordinary.named, some]

end OrdinaryHost

/-! ## Ports -/

theorem digits?_eq (chars : List Char) (digits : ∀ c ∈ chars, c.isDigit = true) (value : Nat) :
    Ipv4.digits? 10 value chars = some (Nat.ofDigitChars 10 chars value) := by
  have one : ∀ n < 58, 48 ≤ n → Hex.value? (UInt8.ofNat n) = some (n - 48) := by decide
  induction chars generalizing value with
  | nil => rfl
  | cons c rest ih =>
    obtain ⟨low, high⟩ := Json.toNat_of_isDigit (digits c List.mem_cons_self)
    have small : c.toNat < 0x80 ∧ c.toNat - 48 < 10 := by omega
    simp only [Ipv4.digits?, one c.toNat (by omega) low, small, and_self, if_true]
    rw [ih fun c hc => digits c (List.mem_cons_of_mem _ hc), Nat.ofDigitChars_cons, Nat.mul_comm]
    rfl

/-- The port that a URL holds, which is none for an unknown port and the default one. -/
def namedPort (port : UInt16) : Option Nat :=
  if port ≠ 0 ∧ port ≠ 80 then some port.toNat else none

/-- The characters of a port after a host. -/
theorem toList_portText (port : UInt16) : (Routing.Topology.portText port).toList =
    ((namedPort port).map fun n => ':' :: Nat.toDigits 10 n).getD [] := by
  unfold Routing.Topology.portText namedPort
  split
  · have digits : (toString port.toNat).toList = Nat.toDigits 10 port.toNat := String.toList_ofList
    rw [String.toList_append, digits]
    rfl
  · rfl

theorem port?_toDigits (port : UInt16) :
    Url.port? .http ((namedPort port).map (Nat.toDigits 10)) = some (namedPort port) := by
  unfold namedPort
  split
  · next other =>
    have digits : ∀ c ∈ Nat.toDigits 10 port.toNat, c.isDigit = true :=
      fun c hc => Json.isDigit_of_mem_toDigits hc
    have small : ¬ 0x10000 ≤ port.toNat := Nat.not_le_of_lt port.toNat_lt
    have proper : ¬ port.toNat = Scheme.http.defaultPort := fun default =>
      other.2 (UInt16.toNat_inj.1 default)
    simp only [Option.map_some, Url.port?, List.isEmpty_iff, Nat.toDigits_ne_nil, if_false,
      List.all_eq_true.2 digits, if_true, digits?_eq _ digits, Nat.ofDigitChars_ten_toDigits,
      if_neg small, if_neg proper]
  · rfl

/-! ## Reading the address -/

theorem splitPort_append {host : List Char} (inert : ∀ c ∈ host, Inert c) (rest : List Char) :
    Url.splitPort false (host ++ rest) =
      (host ++ (Url.splitPort false rest).1, (Url.splitPort false rest).2) := by
  induction host with
  | nil => rfl
  | cons c host ih =>
    obtain ⟨opens, closes, colon, -⟩ := (inert c List.mem_cons_self).inside
    simp only [List.cons_append, Url.splitPort, colon, opens, closes, false_and, if_false,
      ih fun c hc => inert c (List.mem_cons_of_mem _ hc)]

/-- Blank space at the end and what counts nowhere stand after a visible beginning. -/
theorem filter_trim_append {front : List Char} (visible : ∀ c ∈ front, 0x20 < c.toNat)
    (nonempty : front ≠ []) (rest : List Char) :
    ∃ rest', (Url.trim (front ++ rest)).filter (fun c => c ≠ '\t' ∧ c ≠ '\n' ∧ c ≠ '\x0d') =
      front ++ rest' := by
  obtain ⟨first, more, rfl⟩ := List.exists_cons_of_ne_nil nonempty
  have keeps : ∀ c ∈ first :: more, c ≠ '\t' ∧ c ≠ '\n' ∧ c ≠ '\x0d' := by
    intro c hc
    have := visible c hc
    refine ⟨?_, ?_, ?_⟩ <;> rintro rfl <;> exact absurd this (by decide)
  have start : ((first :: more) ++ rest).dropWhile (·.toNat ≤ 0x20) = (first :: more) ++ rest := by
    rw [List.cons_append, List.dropWhile_cons_of_neg]
    simpa using visible first List.mem_cons_self
  have stop : (first :: more).reverse.dropWhile (·.toNat ≤ 0x20) = (first :: more).reverse := by
    cases reversed : (first :: more).reverse with
    | nil => rfl
    | cons last others =>
      have inside : last ∈ first :: more := List.mem_reverse.1 (reversed ▸ List.mem_cons_self)
      rw [List.dropWhile_cons_of_neg]
      simpa using visible last inside
  have trimmed : ∃ rest', Url.trim ((first :: more) ++ rest) = (first :: more) ++ rest' := by
    rw [Url.trim, start, List.reverse_append, List.dropWhile_append]
    split
    · exact ⟨[], by rw [stop, List.reverse_reverse, List.append_nil]⟩
    · exact ⟨_, by rw [List.reverse_append, List.reverse_reverse]⟩
  obtain ⟨rest', trimmed⟩ := trimmed
  refine ⟨rest'.filter fun c => c ≠ '\t' ∧ c ≠ '\n' ∧ c ≠ '\x0d', ?_⟩
  rw [trimmed, List.filter_append,
    List.filter_eq_self.2 fun c hc => decide_eq_true (keeps c hc)]

/-- The URL of an ordinary host and a path that starts with a slash is valid, and what it names is
    the host and the port, whatever follows in the path. -/
theorem parse?_ordinary {host : String} (ordinary : OrdinaryHost host) (port : UInt16)
    (path : String) : ∃ url,
      Url.parse? ("http://" ++ host ++ Routing.Topology.portText port ++ ("/" ++ path)) = some url ∧
        url.scheme = .http ∧ url.credentials = none ∧ url.host = host ∧
          url.port = namedPort port := by
  have inert : ∀ c ∈ host.toList, Inert c := fun c hc => inert_of_isNameChar (ordinary.chars c hc)
  generalize written : (Routing.Topology.portText port).toList = portChars
  have digits : ∀ c ∈ portChars, c = ':' ∨ Inert c := by
    rw [← written, toList_portText]
    cases namedPort port with
    | none => exact fun c hc => nomatch hc
    | some n =>
      intro c hc
      refine (List.mem_cons.1 hc).imp id fun digit => inert_of_isNameChar ?_
      rw [isNameChar, Json.isDigit_of_mem_toDigits digit]
      simp
  have visible : ∀ c ∈ "http://".toList ++ (host.toList ++ (portChars ++ ['/'])),
      0x20 < c.toNat := by
    simp only [List.mem_append]
    rintro c (scheme | named | number | slash)
    · have all : "http://".toList.all (fun c => 0x20 < c.toNat) = true := by decide
      exact of_decide_eq_true (List.all_eq_true.1 all c scheme)
    · exact (inert c named).visible
    · rcases digits c number with rfl | digit
      · decide
      · exact digit.visible
    · rw [List.mem_singleton.1 slash]
      decide
  obtain ⟨rest, kept⟩ := filter_trim_append visible (by simp) path.toList
  have text : ("http://" ++ host ++ Routing.Topology.portText port ++ ("/" ++ path)).toList =
      ("http://".toList ++ (host.toList ++ (portChars ++ ['/']))) ++ path.toList := by
    simp [String.toList_append, written]
  have outside : ∀ c ∈ host.toList ++ portChars,
      c ≠ '@' ∧ c ≠ '?' ∧ c ≠ '#' ∧ Url.isSlash c = false := by
    have inside {c : Char} (inert : Inert c) :
        c ≠ '@' ∧ c ≠ '?' ∧ c ≠ '#' ∧ Url.isSlash c = false := by
      obtain ⟨-, -, -, user, query, number, -, slash⟩ := inert.inside
      exact ⟨user, query, number, slash⟩
    intro c hc
    rcases List.mem_append.1 hc with named | number
    · exact inside (inert c named)
    · rcases digits c number with rfl | digit
      · decide
      · exact inside digit
  have scheme (more : List Char) : Url.splitScheme ("http://".toList ++ more) =
      some ("http", '/' :: '/' :: more) := by
    rfl
  have slashes : ('/' :: '/' :: (host.toList ++ (portChars ++ '/' :: rest))).dropWhile Url.isSlash =
      host.toList ++ (portChars ++ '/' :: rest) := by
    have slash : Url.isSlash '/' = true := by decide
    cases named : host.toList with
    | nil => exact absurd (String.toList_eq_nil_iff.1 named) ordinary.nonempty
    | cons first more =>
      have inside := (inert first (by simp [named])).inside.2.2.2.2.2.2.2
      rw [List.dropWhile_cons_of_pos slash, List.dropWhile_cons_of_pos slash, List.cons_append,
        List.dropWhile_cons_of_neg]
      simp [inside]
  have authority : (host.toList ++ (portChars ++ '/' :: rest)).takeWhile
      (fun c => !(Url.isSlash c || c = '?' || c = '#')) = host.toList ++ portChars := by
    rw [← List.append_assoc, List.takeWhile_append_of_pos, List.takeWhile_cons_of_neg (by decide),
      List.append_nil]
    intro c hc
    obtain ⟨-, query, number, slash⟩ := outside c hc
    simp [query, number, slash]
  have credentials : Url.splitCredentials (host.toList ++ portChars) =
      (none, host.toList ++ portChars) := by
    refine if_neg fun found => ?_
    exact (outside '@' (List.contains_iff_mem.1 found)).1 rfl
  have split : Url.splitPort false (host.toList ++ portChars) =
      (host.toList, (namedPort port).map (Nat.toDigits 10)) := by
    rw [splitPort_append inert, ← written, toList_portText]
    cases namedPort port with
    | none => simp [Url.splitPort]
    | some n => simp [Url.splitPort]
  rw [Url.parse?, text, kept]
  simp only [List.append_assoc, List.singleton_append, scheme, Scheme.ofText?, slashes, authority,
    credentials, split, ordinary.host?_toList, port?_toDigits, bind, Option.bind, if_true]
  refine ⟨_, rfl, rfl, rfl, rfl, rfl⟩

end Laneway.Http
