import Laneway.Broker.Wire
import Laneway.Entries
import Laneway.Proofs.Decimal.Nearest
import Laneway.Proofs.Json.Exact
import Laneway.Proofs.Text.Lossy

set_option autoImplicit false

/-! # Headers sent and received

Headers travel as a table of typed fields, which holds fewer kinds of values than JSON does. What a
table holds as it is comes back as it was sent: texts, flags, nothing, signed whole numbers of 64
bits and finite doubles. Arrays and objects come back as their text, and larger whole numbers as
doubles. Those are values that a table does hold, so headers that have been received once are
received unchanged from then on. -/

namespace Laneway

namespace Broker

/-- How a header value comes back. -/
inductive Carried : Json → Json → Prop
  | null : Carried .null .null
  | bool (b : Bool) : Carried (.bool b) (.bool b)
  | str (s : String) : Carried (.str s) (.str s)
  | whole {n : Json.Whole} (fits : n.val < 0x8000000000000000) :
      Carried (.num (.whole n)) (.num (.whole n))
  | real (d : Json.Real) : Carried (.num (.real d)) (.num (.real d))
  /-- A whole number past 63 bits comes back as the double nearest to it. -/
  | wide {n : Json.Whole} {d : Json.Real} (wide : 0x8000000000000000 ≤ n.val)
      (nearest : d.val = Double.ofNat n.val.toNat) : Carried (.num (.whole n)) (.num (.real d))
  /-- An array or an object comes back as its compact text, which still reads as the value. -/
  | nested {value : Json} (nested : value matches .arr _ | .obj _)
      (reads : Json.readExact (utf8 value.text) = .ok value) : Carried value (.str value.text)

/-- The headers of a delivery whose message was sent with these. -/
def received (sent : Headers) : Headers := (FieldTable.ofHeaders sent).headers

theorem received_eq_map (sent : Headers) :
    received sent = sent.map fun header => (header.1, (Field.ofJson header.2).json) :=
  List.map_map

/-! ## Values -/

theorem json_longText (text : String) : (Field.longText (utf8 text)).json = .str text :=
  congrArg Json.str (Utf8.lossy_utf8 text)

/-- A signed whole number of 64 bits has a field of its own. -/
theorem json_ofJson_whole {n : Json.Whole} (fits : n.val < 0x8000000000000000) :
    (Field.ofJson (.num (.whole n))).json = .num (.whole n) := by
  have low : -0x8000000000000000 ≤ n.val := n.range.1
  have signed : n.val < 0x8000000000000000 := fits
  rw [Field.ofJson, if_pos signed, Field.json, Int64.toInt_ofInt_of_le low fits, Field.wholeJson,
    Json.ofInt?_val]
  rfl

/-- A larger one comes back as a double. -/
theorem json_ofJson_wide {n : Json.Whole} (wide : 0x8000000000000000 ≤ n.val) :
    ∃ d : Json.Real, d.val = Double.ofNat n.val.toNat ∧
      (Field.ofJson (.num (.whole n))).json = .num (.real d) := by
  have fits : n.val.toNat < 0x10000000000000000 := by
    have high : n.val < 0x10000000000000000 := n.range.2
    omega
  have finite := Double.isFinite_ofNat fits
  have unsigned : ¬ n.val < 0x8000000000000000 := Int.not_lt.2 wide
  refine ⟨⟨_, finite⟩, rfl, ?_⟩
  rw [Field.ofJson, if_neg unsigned, Field.json, Json.ofDouble, dif_pos finite]

theorem json_ofJson_real (d : Json.Real) :
    (Field.ofJson (.num (.real d))).json = .num (.real d) := dif_pos d.finite

theorem carried_json (value : Json) : Carried value (Field.ofJson value).json := by
  cases value with
  | null => exact .null
  | bool b => exact .bool b
  | num n =>
    cases n with
    | whole n =>
      rcases Int.lt_or_le n.val (0x8000000000000000) with fits | wide
      · rw [json_ofJson_whole fits]
        exact .whole fits
      · obtain ⟨d, nearest, back⟩ := json_ofJson_wide wide
        rw [back]
        exact .wide wide nearest
    | real d =>
      rw [json_ofJson_real]
      exact .real d
  | str s =>
    rw [Field.ofJson, json_longText]
    exact .str s
  | arr items =>
    rw [Field.ofJson, json_longText]
    exact .nested rfl (Json.readExact_bytes _)
  | obj members =>
    rw [Field.ofJson, json_longText]
    exact .nested rfl (Json.readExact_bytes _)

/-- What has come back once comes back unchanged. -/
theorem Carried.stays {value back : Json} (carried : Carried value back) :
    (Field.ofJson back).json = back := by
  cases carried with
  | null | bool => rfl
  | whole fits => exact json_ofJson_whole fits
  | real | wide => exact json_ofJson_real _
  | str | nested => exact json_longText _

/-! ## Headers -/

/-- Headers come back under the same names, each with the value that a table holds for its own, and
    a second round changes nothing more. -/
theorem received_headers (sent : Headers) :
    (received sent).map (·.1) = sent.map (·.1) ∧
      (∀ name, (sent.lookup name = none → (received sent).lookup name = none) ∧
        ∀ value, sent.lookup name = some value →
          ∃ back, (received sent).lookup name = some back ∧ Carried value back) ∧
      received (received sent) = received sent := by
  have lookups (name : String) : (received sent).lookup name =
      (sent.lookup name).map fun value => (Field.ofJson value).json := by
    rw [received_eq_map]
    exact lookup_map_values (fun value => (Field.ofJson value).json) sent name
  refine ⟨?_, fun name => ⟨fun missing => ?_, fun value found => ?_⟩, ?_⟩
  · rw [received_eq_map, List.map_map]
    rfl
  · rw [lookups, missing, Option.map_none]
  · exact ⟨_, by rw [lookups, found, Option.map_some], carried_json value⟩
  · rw [received_eq_map (received sent), received_eq_map sent, List.map_map]
    refine List.map_congr_left fun header _ => ?_
    exact congrArg (header.1, ·) (carried_json header.2).stays

end Broker

end Laneway
