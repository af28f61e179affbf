import Laneway.Text.Utf8

set_option autoImplicit false

/-! # HTTP headers

A header has a name, which is not case sensitive and kept in lower case, and a value of any bytes.
A name may repeat, and the order among its values counts. Two smaller sets of values matter: those
that may be sent, and those that may be read as text. -/

namespace Laneway.Http

/-- Headers in order, names in lower case. -/
abbrev Headers := List (String × List UInt8)

namespace Headers

/-! ## Values -/

/-- A byte that may be sent in a value: anything but controls, and the tab. -/
def isSendableByte (b : UInt8) : Bool := (0x20 ≤ b && b ≠ 0x7F) || b = 0x09

/-- A byte that may be read in a value: printable ASCII, blank space and the tab. -/
def isReadableByte (b : UInt8) : Bool := (0x20 ≤ b && b < 0x7F) || b = 0x09

/-- The bytes of a text that may be sent as a value. -/
def sendable? (text : String) : Option (List UInt8) :=
  if (utf8 text).all isSendableByte then some (utf8 text) else none

/-- The text of a value that may be read. -/
def readable? (value : List UInt8) : Option String :=
  if value.all isReadableByte then Utf8.text? value else none

def isBlank (c : Char) : Bool := c = ' ' || c = '\t'

/-- A text without the blank space at both ends. -/
def trim (text : String) : String :=
  String.ofList ((text.toList.dropWhile isBlank).reverse.dropWhile isBlank).reverse

/-! ## Names -/

/-- The canonical form of a name. -/
def canonicalName (name : String) : String := String.ofList (name.toList.map Char.toLower)

/-- The headers of a list with names in any case. -/
def ofList (headers : List (String × List UInt8)) : Headers :=
  headers.map fun (name, value) => (canonicalName name, value)

/-! ## Looking up and changing -/

/-- Every value of a name, in order. -/
def values (headers : Headers) (name : String) : List (List UInt8) :=
  (headers.filter fun h => h.1 = name).map (·.2)

def get? (headers : Headers) (name : String) : Option (List UInt8) := (headers.values name).head?

def has (headers : Headers) (name : String) : Bool := headers.any fun h => h.1 = name

/-- Headers with those of `newer` in place of every value of the same names. -/
def override (headers newer : Headers) : Headers :=
  (headers.filter fun h => !newer.has h.1) ++ newer

def append (headers : Headers) (name : String) (value : List UInt8) : Headers :=
  headers ++ [(name, value)]

theorem has_iff {headers : Headers} {name : String} :
    headers.has name = true ↔ headers.values name ≠ [] := by
  simp [has, values, List.filter_eq_nil_iff]

theorem values_append (a b : Headers) (name : String) :
    Headers.values (a ++ b) name = a.values name ++ b.values name := by
  simp [values]

/-- Name by name, the overriding headers win as a whole. -/
theorem values_override (headers newer : Headers) (name : String) :
    (headers.override newer).values name =
      if newer.has name then newer.values name else headers.values name := by
  unfold override
  rw [values_append]
  by_cases h : newer.has name = true
  · have : Headers.values (headers.filter fun x => !newer.has x.1) name = [] := by
      simp only [values, List.filter_filter, List.map_eq_nil_iff, List.filter_eq_nil_iff]
      intro x _ hx
      simp only [Bool.and_eq_true, decide_eq_true_eq, Bool.not_eq_true'] at hx
      rw [hx.1, h] at hx
      exact Bool.noConfusion hx.2
    rw [this, if_pos h, List.nil_append]
  · have none : newer.values name = [] := by
      by_cases e : newer.values name = []
      · exact e
      · exact absurd (has_iff.2 e) h
    rw [none, List.append_nil, if_neg h]
    simp only [values, List.filter_filter]
    congr 1
    apply List.filter_congr
    intro x _
    by_cases hx : x.1 = name
    · subst hx
      simp [h]
    · simp [hx]

end Headers

end Laneway.Http
