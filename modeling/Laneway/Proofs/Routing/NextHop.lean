import Laneway.Routing.Target

set_option autoImplicit false

/-! # What a request tells the next hop

The host of a request and its lane header are made from the same lane, each in its own way: an empty
lane named for a request means production to the host, and to the header it is as if none were
named. The two disagree exactly there. A request with an empty lane goes to production and names the
feature lane of its context to the next hop. -/

namespace Laneway

/-! ## Headers of a new request -/

namespace Http

/-- A text that may be sent as the value of a header. -/
def Sendable (text : String) : Prop := (utf8 text).all Headers.isSendableByte = true

instance (text : String) : Decidable (Sendable text) :=
  inferInstanceAs (Decidable ((utf8 text).all Headers.isSendableByte = true))

/-- Credentials of a URL either stay or become the only header. -/
theorem withoutCredentials_cases (method : String) (url : Url) :
    let request : Request := ⟨method, url, [], [], none⟩
    request.withoutCredentials = request ∨
      url.credentials ≠ none ∧ ∃ basic, request.withoutCredentials = { request with
        url := { url with credentials := none }
        headers := [(authorization, utf8 ("Basic " ++ basic))] } := by
  simp only [Request.withoutCredentials]
  split
  · exact .inl rfl
  · next credentials held =>
    have some : url.credentials ≠ none := by simp [held]
    split
    · exact .inl rfl
    · split
      · exact .inl rfl
      · exact .inr ⟨some, _, rfl⟩

/-- A new request has no header but perhaps one for credentials. -/
theorem values_new {method text : String} {request : Request}
    (new : Draft.new method text = .ok request) {name : String}
    (none : name = authorization → ∀ url, Url.parse? text = some url → url.credentials = none) :
    request.headers.values name = [] := by
  unfold Draft.new at new
  split at new
  · next url parsed =>
    cases new
    rcases withoutCredentials_cases method url with same | ⟨held, basic, moved⟩
    · rw [same]
      rfl
    · have other : name ≠ authorization := fun same => held (none same url parsed)
      rw [moved]
      simp [Headers.values, Ne.symm other]
  · cases new

/-- A new request has the headers that are set on it, but perhaps one for credentials. -/
theorem values_of_new {method text : String} {headers : Headers} {request : Request}
    (built : (Draft.new method text).headers headers = .ok request) {name : String}
    (other : name ≠ authorization) : request.headers.values name = headers.values name := by
  cases new : Draft.new method text with
  | error failure =>
    rw [new] at built
    exact nomatch built
  | ok bare =>
    rw [new] at built
    cases built
    show (bare.headers.override headers).values name = _
    rw [Headers.values_override, values_new new fun same => absurd same other]
    split
    · rfl
    · next missing =>
      rw [Headers.has_iff] at missing
      exact (Decidable.not_not.1 missing).symm

/-- Nothing is left out of what may be sent. -/
theorem filter_sendable {text : Option String}
    (valid : ∀ value, text = some value → Sendable value) :
    text.filter (fun value => Sendable value) = text := by
  cases text with
  | none => rfl
  | some value => exact Option.filter_some_pos (decide_eq_true (valid value rfl))

end Http

/-! ## The lane header -/

namespace Context

/-- The lane that a request passes on: the one named for it unless that is empty, else that of the
    context. -/
def passedLane (context : Context) (lane : Option String) : Option String :=
  (lane.filter (· ≠ "")).or context.lane

/-- Of an optional text that is sent in one header, the values of any name. -/
theorem values_sendable (text : Option String) (header name : String) :
    Http.Headers.values (sendable (text.map fun text => (header, text)).toList) name =
      if header = name then ((text.filter fun text => Http.Sendable text).map utf8).toList
      else [] := by
  have sent (text : String) : Http.Headers.sendable? text =
      if Http.Sendable text then some (utf8 text) else none := rfl
  cases text with
  | none => simp [sendable, Http.Headers.values]
  | some text =>
    by_cases valid : Http.Sendable text <;> by_cases same : header = name <;>
      simp [sendable, sent, Http.Headers.values, Option.filter, valid, same]

/-- Under every name stands what the context has under it, if that may be sent. -/
theorem values_outbound (context : Context) (name : String) :
    Http.Headers.values (sendable context.outbound) name =
      (if laneHeader = name then
        ((context.lane.filter fun text => Http.Sendable text).map utf8).toList else []) ++
      (if traceHeader = name then
        ((context.traceId.filter fun text => Http.Sendable text).map utf8).toList else []) ++
      (if appHeader = name then
        ((context.appName.filter fun text => Http.Sendable text).map utf8).toList else []) := by
  have apart : sendable context.outbound =
      sendable (context.lane.map fun lane => (laneHeader, lane)).toList ++
        sendable (context.traceId.map fun id => (traceHeader, id)).toList ++
          sendable (context.appName.map fun name => (appHeader, name)).toList := by
    simp only [sendable, outbound, List.filterMap_append]
  simp only [apart, Http.Headers.values_append, values_sendable]

/-- The lane stands in a header unless it may not be sent. -/
theorem values_laneHeader (context : Context) (lane : Option String) :
    (context.headers lane).values laneHeader =
      (((context.passedLane lane).filter fun name => Http.Sendable name).map utf8).toList := by
  have trace : ¬ traceHeader = laneHeader := by decide
  have app : ¬ appHeader = laneHeader := by decide
  unfold headers carried passedLane
  cases lane.filter (· ≠ "") with
  | some name => exact (values_sendable (some name) laneHeader laneHeader).trans (if_pos rfl)
  | none =>
    simp only [values_outbound, trace, app, if_false, if_true, List.append_nil, Option.none_or]

/-- Only an empty lane is passed over for that of the context. -/
theorem passedLane_of_ne {context : Context} {lane : Option String} (named : lane ≠ some "") :
    context.passedLane lane = Routing.effectiveLane context lane := by
  cases lane with
  | none => rfl
  | some name =>
    have kept : name ≠ "" := fun empty => named (congrArg some empty)
    simp [passedLane, Routing.effectiveLane, Option.filter, kept]

end Context

namespace Routing

/-- The lane that a request names to the next hop. -/
def namedLane (request : Http.Request) : Option String :=
  (request.headers.get? Context.laneHeader).bind Utf8.text?

/-- The feature lane of the context is passed on with a request for which an empty lane is named. -/
structure Inherits (context : Context) (lane : Option String) : Prop where
  empty : lane = some ""
  feature : ∃ name, context.lane = some name ∧ Lane.IsFeature name ∧ Http.Sendable name

section

variable {topology : Topology} {context : Context} {method service path : String}
  {lane : Option String} {request : Http.Request}

/-- The lane header of a request holds the lane that is passed on, and nothing else. -/
theorem values_of_request
    (built : topology.request context method service path lane = .ok request) :
    namedLane request = (context.passedLane lane).filter (fun name => Http.Sendable name) ∧
      request.headers.values Context.laneHeader = ((namedLane request).map utf8).toList := by
  have apart : Context.laneHeader ≠ Http.authorization := by decide
  have values := (Http.values_of_new built apart).trans (context.values_laneHeader lane)
  have named : namedLane request =
      (context.passedLane lane).filter fun name => Http.Sendable name := by
    rw [namedLane, Http.Headers.get?, values]
    cases (context.passedLane lane).filter fun name => Http.Sendable name with
    | none => rfl
    | some name => exact Utf8.text?_utf8 name
  exact ⟨named, named ▸ values⟩

/-- The lane that serves a request is one that the request asks for. -/
theorem effectiveLane_of_servingLane {name : String}
    (serves : topology.servingLane service (effectiveLane context lane) = some name) :
    effectiveLane context lane = some name ∧ Lane.IsFeature name :=
  Lane.normalize_eq_some_iff.1 (Option.filter_eq_some_iff.1 serves).1

/-- A request names the lane that it asks for, unless that is the empty one. -/
theorem namedLane_of_ne (built : topology.request context method service path lane = .ok request)
    (valid : ∀ name, effectiveLane context lane = some name → Http.Sendable name)
    (named : lane ≠ some "") : namedLane request = effectiveLane context lane := by
  rw [(values_of_request built).1, Context.passedLane_of_ne named, Http.filter_sendable valid]

/-- A request for which an empty lane is named names that of its context. -/
theorem namedLane_of_empty
    (built : topology.request context method service path (some "") = .ok request) :
    namedLane request = context.lane.filter fun name => Http.Sendable name := by
  have passed : context.passedLane (some "") = context.lane := by
    simp [Context.passedLane, Option.filter]
  rw [(values_of_request built).1, passed]

/-- What the context has for a request to inherit. -/
theorem inherits_empty_iff :
    Inherits context (some "") ↔ ∃ name, Lane.IsFeature name ∧
      context.lane.filter (fun name => Http.Sendable name) = some name := by
  constructor
  · rintro ⟨-, name, own, feature, sendable⟩
    exact ⟨name, feature, Option.filter_eq_some_iff.2 ⟨own, decide_eq_true sendable⟩⟩
  · rintro ⟨name, feature, held⟩
    obtain ⟨own, sendable⟩ := Option.filter_eq_some_iff.1 held
    exact ⟨rfl, name, own, feature, of_decide_eq_true sendable⟩

/-- The host and the lane header of a request agree unless the lane of the context is inherited:
    then, and only then, the header names another environment than the one that the URL was made
    for. The header stands at most once, a request to the host of a lane names that lane, and one
    that inherits its lane has the URL of production. -/
theorem named_lane_agrees_iff
    (built : topology.request context method service path lane = .ok request)
    (valid : ∀ name, effectiveLane context lane = some name → Http.Sendable name) :
    (Lane.normalize (namedLane request) = Lane.normalize (effectiveLane context lane) ↔
        ¬ Inherits context lane) ∧
      request.headers.values Context.laneHeader = ((namedLane request).map utf8).toList ∧
      (∀ name, topology.servingLane service (effectiveLane context lane) = some name →
        namedLane request = some name) ∧
      (Inherits context lane → namedLane request = context.lane ∧
        topology.url context service path lane =
          topology.url context service path (some Lane.production)) := by
  obtain ⟨-, values⟩ := values_of_request built
  by_cases empty : lane = some ""
  · subst empty
    rw [namedLane_of_empty built] at values ⊢
    refine ⟨?_, values, ?_, ?_⟩
    · show Lane.normalize _ = none ↔ _
      rw [inherits_empty_iff, Option.eq_none_iff_forall_ne_some, not_exists]
      refine forall_congr' fun name => ?_
      rw [Ne, Lane.normalize_eq_some_iff, and_comm]
    · intro name serves
      obtain ⟨asked, feature⟩ := effectiveLane_of_servingLane serves
      exact absurd (Option.some.inj asked).symm feature.1
    · rintro ⟨-, name, own, -, sendable⟩
      refine ⟨?_, rfl⟩
      rw [own]
      exact Option.filter_some_pos (decide_eq_true sendable)
  · have agrees := namedLane_of_ne built valid empty
    refine ⟨?_, values, ?_, fun inherits => absurd inherits.empty empty⟩
    · rw [agrees]
      exact iff_of_true rfl fun inherits => empty inherits.empty
    · intro name serves
      rw [agrees]
      exact (effectiveLane_of_servingLane serves).1

/-- A request is built when its URL can be read. -/
theorem exists_request_of_parse (method : String)
    (parses : (Http.Url.parse? (topology.url context service path lane)).isSome = true) :
    ∃ request, topology.request context method service path lane = .ok request := by
  obtain ⟨url, parsed⟩ := Option.isSome_iff_exists.1 parses
  simp only [Topology.request, Http.Draft.new, parsed]
  exact ⟨_, rfl⟩

end

/-- One service, which is deployed in production and in one lane. -/
def deployed : Topology := ⟨[("svc", ⟨⟨["feat-x"], by decide⟩, 3000⟩)], by decide⟩

/-- A request of the context of that lane that is sent to production by name says so. -/
theorem named_lane_agrees_iff_production : ∃ request,
    deployed.request ⟨some "feat-x", none, none⟩ "GET" "svc" "/p" (some "prod") = .ok request ∧
      Lane.normalize (namedLane request) = none := by
  obtain ⟨request, built⟩ := exists_request_of_parse "GET"
    (by decide +kernel : (Http.Url.parse?
      (deployed.url ⟨some "feat-x", none, none⟩ "svc" "/p" (some "prod"))).isSome = true)
  have valid : ∀ name, effectiveLane ⟨some "feat-x", none, none⟩ (some "prod") = some name →
      Http.Sendable name := by
    rintro _ ⟨⟩
    decide +kernel
  refine ⟨request, built, ?_⟩
  exact (named_lane_agrees_iff built valid).1.2 fun inherits => nomatch inherits.empty

/-- A request of that context for which an empty lane is named goes to production and names the lane
    of the context. -/
theorem names_lane_to_production : ∃ request,
    deployed.request ⟨some "feat-x", none, none⟩ "GET" "svc" "/p" (some "") = .ok request ∧
      deployed.url ⟨some "feat-x", none, none⟩ "svc" "/p" (some "") = "http://svc:3000/p" ∧
        Lane.normalize (effectiveLane ⟨some "feat-x", none, none⟩ (some "")) = none ∧
          Lane.normalize (namedLane request) = some "feat-x" := by
  obtain ⟨request, built⟩ := exists_request_of_parse "GET"
    (by decide +kernel : (Http.Url.parse?
      (deployed.url ⟨some "feat-x", none, none⟩ "svc" "/p" (some ""))).isSome = true)
  refine ⟨request, built, by decide +kernel, rfl, ?_⟩
  rw [namedLane_of_empty built]
  decide +kernel

end Routing

end Laneway
