import Mathlib.Data.List.DropRight
import Laneway.Proofs.Json.Reading
import Laneway.Proofs.Routing.NextHop

set_option autoImplicit false

/-! # A context from hop to hop

What is read from a header has no blank space around it, is not empty, and is made of bytes that may
be sent. So it stands in the next request as it is, and is read there as itself. A lane that names
production is dropped where it is read, and a trace id is made up where there is none: after the
first hop there is nothing left to drop or to make up, and every later hop has the same context. -/

namespace Laneway

/-! ## Texts of headers -/

theorem utf8_injective {a b : String} (same : utf8 a = utf8 b) : a = b := by
  have read := congrArg Utf8.text? same
  rw [Utf8.text?_utf8, Utf8.text?_utf8] at read
  exact Option.some.inj read

/-- The bytes that spell a text are its bytes. -/
theorem utf8_of_text? {bytes : List UInt8} {text : String}
    (spelled : Utf8.text? bytes = some text) : utf8 text = bytes := by
  unfold Utf8.text? String.fromUTF8? at spelled
  split at spelled
  · cases spelled
    exact List.toList_toArray
  · cases spelled

namespace Http

/-- A text as it is read from a header. -/
structure Legible (text : String) : Prop where
  readable : (utf8 text).all Headers.isReadableByte = true
  trimmed : Headers.trim text = text
  nonempty : text ≠ ""

theorem Headers.isSendableByte_of_isReadableByte {b : UInt8}
    (readable : Headers.isReadableByte b = true) : Headers.isSendableByte b = true := by
  simp only [Headers.isReadableByte, Headers.isSendableByte, Bool.or_eq_true, Bool.and_eq_true,
    decide_eq_true_eq] at readable ⊢
  rcases readable with ⟨low, high⟩ | tab
  · exact .inl ⟨low, fun delete => absurd (delete ▸ high) (by decide)⟩
  · exact .inr tab

theorem Legible.sendable {text : String} (legible : Legible text) : Sendable text :=
  List.all_eq_true.2 fun b hb =>
    Headers.isSendableByte_of_isReadableByte (List.all_eq_true.1 legible.readable b hb)

theorem Legible.readable?_utf8 {text : String} (legible : Legible text) :
    Headers.readable? (utf8 text) = some text := by
  rw [Headers.readable?, if_pos legible.readable, Utf8.text?_utf8]

namespace Headers

/-- What trimming leaves of the characters of a text. -/
theorem toList_trim (text : String) :
    (trim text).toList = (text.toList.dropWhile isBlank).rdropWhile isBlank := by
  rw [trim, String.toList_ofList, List.rdropWhile]

/-- Trimming takes characters away at both ends only. -/
theorem toList_trim_sublist (text : String) : (trim text).toList.Sublist text.toList := by
  rw [toList_trim]
  exact (List.rdropWhile_prefix _ _).sublist.trans (List.dropWhile_sublist _)

theorem mem_utf8_of_mem_trim {text : String} {b : UInt8} (hb : b ∈ utf8 (trim text)) :
    b ∈ utf8 text := by
  rw [← String.ofList_toList (s := trim text), Json.utf8_ofList, Json.encoded,
    List.mem_flatMap] at hb
  obtain ⟨c, hc, hb⟩ := hb
  rw [← String.ofList_toList (s := text), Json.utf8_ofList, Json.encoded, List.mem_flatMap]
  exact ⟨c, (toList_trim_sublist text).mem hc, hb⟩

/-- There is nothing more to trim: the first character left is the first that is not blank. -/
theorem trim_trim (text : String) : trim (trim text) = trim text := by
  have front : (trim text).toList.dropWhile isBlank = (trim text).toList := by
    rw [List.dropWhile_eq_self_iff, toList_trim]
    intro pos
    have initial := List.rdropWhile_prefix isBlank (text.toList.dropWhile isBlank)
    rw [initial.getElem pos]
    exact List.dropWhile_get_zero_not _ _ (Nat.lt_of_lt_of_le pos initial.length_le)
  apply String.toList_injective
  rw [toList_trim (trim text), front, toList_trim, List.rdropWhile_idempotent]

end Headers

end Http

namespace Context

/-- What is read from a header reads as itself. -/
theorem legible_of_field? {headers : Http.Headers} {name text : String}
    (found : field? headers name = some text) : Http.Legible text := by
  simp only [field?, Option.bind_eq_bind, Option.bind_eq_some_iff] at found
  obtain ⟨value, -, whole, readable, kept⟩ := found
  split at kept
  · exact nomatch kept
  · next nonempty =>
    obtain rfl := Option.some.inj kept
    unfold Http.Headers.readable? at readable
    split at readable
    · next all =>
      rw [← utf8_of_text? readable] at all
      have trimmed : ∀ b ∈ utf8 (Http.Headers.trim whole), Http.Headers.isReadableByte b = true :=
        fun b hb => List.all_eq_true.1 all b (Http.Headers.mem_utf8_of_mem_trim hb)
      exact ⟨List.all_eq_true.2 trimmed, Http.Headers.trim_trim whole, nonempty⟩
    · exact nomatch readable

/-- A header that holds such a text is read as that text. -/
theorem field?_eq {headers : Http.Headers} {name : String} {text : Option String}
    (holds : headers.values name = (text.map utf8).toList)
    (legible : ∀ value, text = some value → Http.Legible value) : field? headers name = text := by
  rw [field?, Http.Headers.get?, holds]
  cases text with
  | none => rfl
  | some value =>
    have reads := (legible value rfl).readable?_utf8
    simp [reads, (legible value rfl).trimmed, (legible value rfl).nonempty]

/-! ## Contexts that have been read -/

/-- Everything in the context is as it is read from a header, its lane is a feature lane, and it has
    a trace id. -/
structure Settled (context : Context) : Prop where
  lane : ∀ name, context.lane = some name → Http.Legible name ∧ Lane.IsFeature name
  traceId : ∀ id, context.traceId = some id → Http.Legible id
  traced : context.traceId ≠ none
  appName : ∀ name, context.appName = some name → Http.Legible name

theorem settled_ofHeaders {fresh : String} (legible : Http.Legible fresh)
    (headers : Http.Headers) : (ofHeaders fresh headers).Settled where
  lane name held := by
    obtain ⟨found, feature⟩ := Option.filter_eq_some_iff.1 held
    obtain ⟨_, normal⟩ := Option.isSome_iff_exists.1 feature
    obtain ⟨same, feature⟩ := Lane.normalize_eq_some_iff.1 normal
    cases same
    exact ⟨legible_of_field? found, feature⟩
  traceId id held := by
    obtain rfl := Option.some.inj held
    cases found : field? headers traceHeader with
    | none => exact legible
    | some id => exact legible_of_field? found
  traced := Option.some_ne_none _
  appName _ held := legible_of_field? held

/-- What the context passes on under a name. -/
def passed (context : Context) (name : String) : Option String :=
  if name = laneHeader then context.lane
  else if name = traceHeader then context.traceId
  else if name = appHeader then context.appName
  else none

theorem Settled.legible_passed {context : Context} (settled : context.Settled) {name text : String}
    (held : context.passed name = some text) : Http.Legible text := by
  unfold passed at held
  split at held
  · exact (settled.lane text held).1
  · split at held
    · exact settled.traceId text held
    · split at held
      · exact settled.appName text held
      · exact nomatch held

/-- Nothing is left out of the headers of pairs that may be sent. -/
theorem sendable_eq_map {pairs : List (String × String)}
    (valid : ∀ pair ∈ pairs, Http.Sendable pair.2) :
    sendable pairs = pairs.map fun pair => (pair.1, utf8 pair.2) := by
  rw [sendable, ← List.filterMap_eq_map]
  refine List.filterMap_congr fun pair hp => ?_
  have sent : Http.Headers.sendable? pair.2 = some (utf8 pair.2) := if_pos (valid pair hp)
  simp only [sent, Option.map_some, Function.comp_apply]

theorem Settled.headers_eq {context : Context} (settled : context.Settled) :
    context.headers none = context.outbound.map fun pair => (pair.1, utf8 pair.2) := by
  refine sendable_eq_map fun pair hp => ?_
  simp only [carried, Option.filter_none, outbound, List.mem_append, Option.mem_toList,
    Option.map_eq_some_iff] at hp
  obtain (⟨text, held, rfl⟩ | ⟨text, held, rfl⟩) | ⟨text, held, rfl⟩ := hp
  · exact (settled.lane text held).1.sendable
  · exact (settled.traceId text held).sendable
  · exact (settled.appName text held).sendable

/-- Under each name stands what is passed on, if that may be sent. -/
theorem values_passed (context : Context) (name : String) :
    Http.Headers.values (sendable context.outbound) name =
      (((context.passed name).filter fun text => Http.Sendable text).map utf8).toList := by
  rw [values_outbound, passed]
  by_cases first : name = laneHeader
  · subst first
    simp [show traceHeader ≠ laneHeader by decide, show appHeader ≠ laneHeader by decide]
  · by_cases second : name = traceHeader
    · subst second
      simp [first, Ne.symm first, show appHeader ≠ traceHeader by decide]
    · by_cases third : name = appHeader
      · subst third
        simp [first, second, Ne.symm first, Ne.symm second]
      · simp [first, second, third, Ne.symm first, Ne.symm second, Ne.symm third]

/-- Under every name the headers hold what is passed on. -/
theorem Settled.values_headers {context : Context} (settled : context.Settled) (name : String) :
    (context.headers none).values name = ((context.passed name).map utf8).toList := by
  refine (values_passed context name).trans ?_
  rw [Http.filter_sendable fun text held => (settled.legible_passed held).sendable]

/-- Headers that hold what a context passes on are read as that context. -/
theorem Settled.ofHeaders_eq {context : Context} (settled : context.Settled)
    {headers : Http.Headers} (holds : ∀ name ∈ [laneHeader, traceHeader, appHeader],
      headers.values name = ((context.passed name).map utf8).toList) (fresh : String) :
    ofHeaders fresh headers = context := by
  have field {name : String} (hm : name ∈ [laneHeader, traceHeader, appHeader]) :
      field? headers name = context.passed name :=
    field?_eq (holds name hm) fun _ held => settled.legible_passed held
  have lane : field? headers laneHeader = context.lane := field (by simp)
  have traceId : field? headers traceHeader = context.traceId := field (by simp)
  have appName : field? headers appHeader = context.appName := field (by simp)
  have feature : context.lane.filter (fun lane => Lane.isFeature (some lane)) = context.lane := by
    cases held : context.lane with
    | none => rfl
    | some name =>
      refine Option.filter_some_pos ?_
      rw [Lane.isFeature, Lane.normalize_eq_some_iff.2 ⟨rfl, (settled.lane name held).2⟩]
      rfl
  obtain ⟨id, traced⟩ := Option.ne_none_iff_exists'.1 settled.traced
  rw [ofHeaders, lane, traceId, appName, feature, traced]
  obtain ⟨_, _, _⟩ := context
  cases traced
  rfl

/-! ## Chains of requests -/

/-- The headers that the next hop is reached with: those of the context alone, or those of a request
    to a service for which no lane is named. -/
inductive Sends (context : Context) : Http.Headers → Prop
  | alone : Sends context (context.headers none)
  | request {topology : Routing.Topology} {method service path : String} {request : Http.Request}
      (built : topology.request context method service path none = .ok request) :
      Sends context request.headers

/-- The contexts along a chain of hops, each read from what the one before it sends. -/
inductive Reaches (first : Context) : Context → Prop
  | start : Reaches first first
  | hop {context : Context} {headers : Http.Headers} (reaches : Reaches first context)
      (sends : context.Sends headers) (fresh : String) : Reaches first (ofHeaders fresh headers)

/-- Whatever else a request carries, what the context passes on stands in it. -/
theorem Sends.values {context : Context} {headers : Http.Headers} (sends : context.Sends headers)
    (settled : context.Settled) {name : String} (hm : name ∈ [laneHeader, traceHeader, appHeader]) :
    headers.values name = ((context.passed name).map utf8).toList := by
  rw [← settled.values_headers]
  cases sends with
  | alone => rfl
  | request built =>
    have apart : ∀ name ∈ [laneHeader, traceHeader, appHeader], name ≠ Http.authorization := by
      decide
    exact Http.values_of_new built (apart name hm)

theorem Reaches.eq {first context : Context} (reaches : Reaches first context)
    (settled : first.Settled) : context = first := by
  induction reaches with
  | start => rfl
  | hop _ sends fresh ih =>
    subst ih
    exact settled.ofHeaders_eq (fun name hm => sends.values settled hm) fresh

/-- A context that was read from headers, whatever they are, is the context of every later hop. Its
    headers are all that it passes on, none of them left out, and they are read as the same context.
    So is what any chain of requests leads to; and none of these carries an empty value under a name
    of the context, or the name of production as its lane. -/
theorem survives_hops (headers : Http.Headers) {fresh : String} (legible : Http.Legible fresh) :
    let context := ofHeaders fresh headers
    context.headers none = context.outbound.map (fun pair => (pair.1, utf8 pair.2)) ∧
      (∀ later, ofHeaders later (context.headers none) = context) ∧
      ∀ hop, Reaches context hop → hop = context ∧ ∀ sent, hop.Sends sent →
        (∀ name ∈ [laneHeader, traceHeader, appHeader], [] ∉ sent.values name) ∧
        utf8 Lane.production ∉ sent.values laneHeader := by
  intro context
  have settled : context.Settled := settled_ofHeaders legible headers
  refine ⟨settled.headers_eq, ?_, ?_⟩
  · exact settled.ofHeaders_eq fun name _ => settled.values_headers name
  · intro hop reaches
    obtain rfl := reaches.eq settled
    refine ⟨rfl, fun sent sends => ⟨fun name hm empty => ?_, fun named => ?_⟩⟩
    · rw [sends.values settled hm, Option.mem_toList, Option.map_eq_some_iff] at empty
      obtain ⟨text, held, empty⟩ := empty
      exact (settled.legible_passed held).nonempty (utf8_injective empty)
    · rw [sends.values settled (by simp), Option.mem_toList, Option.map_eq_some_iff] at named
      obtain ⟨name, held, named⟩ := named
      have feature := (settled.lane name held).2
      exact feature.2 (utf8_injective named)

/-- Headers with a repeated lane with blank space around it, and an application without a name. -/
def looseHeaders : Http.Headers :=
  [(laneHeader, utf8 "\t feat-x "), (laneHeader, utf8 "feat-y"), (appHeader, utf8 "  ")]

/-- The next hop but one of a request that came without a trace id. -/
theorem survives_hops_loose : Http.Legible "trace-1" ∧
    ofHeaders "trace-1" looseHeaders = ⟨some "feat-x", some "trace-1", none⟩ ∧
      ofHeaders "trace-2" (Context.headers (ofHeaders "trace-1" looseHeaders) none) =
        ⟨some "feat-x", some "trace-1", none⟩ := by
  have legible : Http.Legible "trace-1" := ⟨by decide, by decide, by decide⟩
  have read : ofHeaders "trace-1" looseHeaders = ⟨some "feat-x", some "trace-1", none⟩ := by
    decide +kernel
  exact ⟨legible, read, ((survives_hops looseHeaders legible).2.1 "trace-2").trans read⟩

end Context

end Laneway
