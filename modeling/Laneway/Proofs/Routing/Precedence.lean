import Laneway.Proofs.Routing.Hops

set_option autoImplicit false

/-! # Whose headers a request carries

The headers of a request come from three places: the context, the caller, and the body with its
type. They are set one after another, each name as a whole. So under a name that the caller gives
stands what the caller gives and nothing else, however often the name is repeated and in whatever case it
is written; under the other names of the context stands what the context injects, and what may not
be sent is left out; and a type is added for a body only where the caller gives none. -/

namespace Laneway

namespace Http

/-- What was written under a name, in any case. -/
def written (headers : List (String × List UInt8)) (name : String) : List (List UInt8) :=
  (headers.filter fun h => Headers.canonicalName h.1 = name).map (·.2)

theorem Headers.values_ofList (headers : List (String × List UInt8)) (name : String) :
    (ofList headers).values name = written headers name := by
  unfold ofList values written
  rw [List.filter_map, List.map_map]
  rfl

/-- Headers with the type of a JSON body, unless they have a type already. -/
def typed (json : Option Json) (headers : Headers) : Headers :=
  if headers.has contentType then headers
  else headers ++ (json.map fun _ => (contentType, utf8 "application/json")).toList

theorem values_typed_of_ne (json : Option Json) (headers : Headers) {name : String}
    (other : name ≠ contentType) : (typed json headers).values name = headers.values name := by
  unfold typed
  split
  · rfl
  · rw [Headers.values_append]
    cases json <;> simp [Headers.values, Ne.symm other]

/-- A type does not come on top of another. -/
theorem values_typed_of_nonempty (json : Option Json) {headers : Headers} {name : String}
    (held : headers.values name ≠ []) : (typed json headers).values name = headers.values name := by
  by_cases same : name = contentType
  · subst same
    rw [typed, if_pos (Headers.has_iff.2 held)]
  · exact values_typed_of_ne json headers same

theorem values_typed (json : Option Json) {headers : Headers}
    (bare : headers.values contentType = []) : (typed json headers).values contentType =
      (json.map fun _ => utf8 "application/json").toList := by
  have missing : ¬ headers.has contentType = true := fun has => Headers.has_iff.1 has bare
  rw [typed, if_neg missing, Headers.values_append, bare]
  cases json <;> simp [Headers.values]

end Http

namespace Context

/-- The names under which a context is passed on. -/
def names : List String := [laneHeader, traceHeader, appHeader]

/-- What is put under a name for a request: with a lane named for it that lane alone, and else all
    of the context. -/
def injected (context : Context) (lane : Option String) (name : String) : Option String :=
  match lane.filter (· ≠ "") with
  | some lane => if name = laneHeader then some lane else none
  | none => context.passed name

/-- Under each name the headers hold what is injected, if that may be sent, once. -/
theorem values_headers (context : Context) (lane : Option String) (name : String) :
    (context.headers lane).values name =
      (((context.injected lane name).filter fun text => Http.Sendable text).map utf8).toList := by
  unfold headers carried injected
  cases lane.filter (· ≠ "") with
  | none => exact values_passed context name
  | some lane =>
    refine (values_sendable (some lane) laneHeader name).trans ?_
    by_cases same : name = laneHeader
    · subst same
      simp
    · simp [same, Ne.symm same]

theorem get?_headers (context : Context) (lane : Option String) (name : String) :
    (context.headers lane).get? name =
      ((context.injected lane name).filter fun text => Http.Sendable text).map utf8 := by
  rw [Http.Headers.get?, values_headers]
  cases ((context.injected lane name).filter fun text => Http.Sendable text).map utf8 <;> rfl

/-- Nothing is injected under a name that is not one of the context. -/
theorem injected_of_notMem {context : Context} {lane : Option String} {name : String}
    (other : name ∉ names) : context.injected lane name = none := by
  simp only [names, List.mem_cons, List.not_mem_nil, or_false, not_or] at other
  unfold injected passed
  split <;> simp [other]

end Context

namespace Routing

open Http (contentType authorization)

/-- The headers of a request to a URL, name by name, by what the context injects and what the caller
    gives. -/
structure Merged (url : String) (injected : Http.Headers) (given : List (String × List UInt8))
    (json : Option Json) (headers : Http.Headers) : Prop where
  /-- Under a name that the caller gives stand the values of the caller, in their order. -/
  caller : ∀ name, Http.written given name ≠ [] → headers.values name = Http.written given name
  /-- Under another name of the context stands the one injected value, if there is one. -/
  context : ∀ name ∈ Context.names, Http.written given name = [] →
    headers.values name = (injected.get? name).toList
  /-- A body has its type, unless the caller gives one. -/
  body : Http.written given contentType = [] →
    headers.values contentType = (json.map fun _ => utf8 "application/json").toList
  /-- There is nothing else, but for the credentials of a URL that has some. -/
  rest : ∀ name, name ∉ Context.names → name ≠ contentType →
    (name = authorization → ∀ parsed, Http.Url.parse? url = some parsed →
      parsed.credentials = none) →
    Http.written given name = [] → headers.values name = []

namespace Topology

variable {topology : Topology} {context : Context} {service path : String}
  {lane : Option String} {options : Options} {request bare : Http.Request}

/-- A request is a new one with the headers of the context, then those of the caller, and then the
    type of its body. -/
theorem fetch_eq (topology : Topology) (context : Context) (service path : String)
    (options : Options) (lane : Option String) :
    topology.fetch context service path options lane =
      (Http.Draft.new options.method (topology.url context service path lane)).map fun bare =>
        { bare with
          headers := Http.typed options.json
            ((bare.headers.override (context.headers lane)).override options.headers)
          body := (options.json.map Json.bytes).getD bare.body
          timeout := options.timeout.or bare.timeout } := by
  obtain ⟨method, headers, json, timeout⟩ := options
  unfold fetch Topology.request Http.typed
  cases Http.Draft.new method (topology.url context service path lane) with
  | error failure => cases json <;> cases timeout <;> rfl
  | ok bare =>
    cases json with
    | none => cases timeout <;> simp [Http.Draft.headers, Http.Draft.timeout, Except.map]
    | some value =>
      cases timeout <;>
        simp [Http.Draft.headers, Http.Draft.json, Http.Draft.timeout, Except.map,
          Http.Headers.append]

/-- Whether a request is sent, and where, is up to its URL. -/
theorem url_sent_fetch (topology : Topology) (context : Context) (service path : String)
    (options : Options) (lane : Option String) :
    (topology.fetch context service path options lane).sent.map (·.url) =
      (Http.Draft.new options.method (topology.url context service path lane)).sent.map
        (·.url) := by
  rw [fetch_eq]
  cases Http.Draft.new options.method (topology.url context service path lane) with
  | error failure => rfl
  | ok bare =>
    show (if bare.url.isSendable then Except.ok _ else _ : Except Http.Failure Http.Request).map _ =
      (if bare.url.isSendable then Except.ok bare else _ : Except Http.Failure Http.Request).map _
    split <;> rfl

/-- What is sent is what was built. -/
theorem headers_of_sent
    (sent : (topology.fetch context service path options lane).sent = .ok request) :
    ∃ bare, Http.Draft.new options.method (topology.url context service path lane) = .ok bare ∧
      request.headers = Http.typed options.json
        ((bare.headers.override (context.headers lane)).override options.headers) := by
  rw [fetch_eq] at sent
  cases new : Http.Draft.new options.method (topology.url context service path lane) with
  | error failure =>
    rw [new] at sent
    exact nomatch sent
  | ok bare =>
    rw [new] at sent
    simp only [Http.Draft.sent, Except.map, Except.bind, bind] at sent
    split at sent
    · cases sent
      exact ⟨bare, rfl, rfl⟩
    · exact nomatch sent

/-- Of three layers of headers the last that has a name decides it. -/
theorem values_override_override (bare injected newer : Http.Headers) (name : String) :
    ((bare.override injected).override newer).values name =
      if newer.values name ≠ [] then newer.values name
      else if injected.values name ≠ [] then injected.values name else bare.values name := by
  simp only [Http.Headers.values_override, Http.Headers.has_iff]

/-- A request that is sent has the headers of the context and the caller merged. -/
theorem merged_of_sent {given : List (String × List UInt8)}
    (own : options.headers = Http.Headers.ofList given)
    (sent : (topology.fetch context service path options lane).sent = .ok request) :
    Merged (topology.url context service path lane) (context.headers lane) given options.json
      request.headers := by
  obtain ⟨bare, new, headers⟩ := headers_of_sent sent
  rw [headers, own]
  have layers (name : String) := values_override_override bare.headers (context.headers lane)
    (Http.Headers.ofList given) name
  simp only [Http.Headers.values_ofList] at layers
  have unnamed {name : String} (other : name ∉ Context.names)
      (plain : bare.headers.values name = []) (missing : Http.written given name = []) :
      ((bare.headers.override (context.headers lane)).override
        (Http.Headers.ofList given)).values name = [] := by
    have uninjected : (context.headers lane).values name = [] := by
      rw [Context.values_headers, Context.injected_of_notMem other]
      rfl
    rw [layers, if_neg (not_not.2 missing), if_neg (not_not.2 uninjected), plain]
  constructor
  · intro name held
    have stands := (layers name).trans (if_pos held)
    rw [Http.values_typed_of_nonempty _ (stands ▸ held), stands]
  · intro name hm missing
    have apart : ∀ name ∈ Context.names, name ≠ contentType ∧ name ≠ authorization := by decide
    have once :
        (context.headers lane).values name = ((context.headers lane).get? name).toList := by
      rw [Context.get?_headers, Context.values_headers]
    have plain : bare.headers.values name = [] :=
      Http.values_new new fun same => absurd same (apart name hm).2
    rw [Http.values_typed_of_ne _ _ (apart name hm).1, layers, if_neg (not_not.2 missing), plain,
      ← once, ite_not]
    split
    · next none => exact none.symm
    · rfl
  · intro missing
    have plain : bare.headers.values contentType = [] :=
      Http.values_new new fun same => absurd same (by decide)
    exact Http.values_typed _ (unnamed (by decide) plain missing)
  · intro name other untyped none missing
    rw [Http.values_typed_of_ne _ _ untyped, unnamed other (Http.values_new new none) missing]

end Topology

/-- Whatever the context, the lane named for a request and the headers that the caller gives, in any
    case and with any repetition: the request that is sent carries what the caller gives, else what
    the context injects, and a type for its body. The context injects all that it has and that may
    be sent, or, where a lane is named, nothing but that lane. Only the URL decides whether a request
    is sent. -/
theorem caller_headers_win (topology : Topology) (context : Context) (service path : String)
    (lane : Option String) (options : Options) (given : List (String × List UInt8))
    (own : options.headers = Http.Headers.ofList given) :
    let url := topology.url context service path lane
    let draft := topology.fetch context service path options lane
    draft.sent.map (·.url) = (Http.Draft.new options.method url).sent.map (·.url) ∧
      (∀ name, (context.headers lane).get? name =
        ((context.injected lane name).filter fun text => Http.Sendable text).map utf8) ∧
      ∀ request, draft.sent = .ok request →
        Merged url (context.headers lane) given options.json request.headers ∧
        ∀ named, lane = some named → named ≠ "" →
          ∀ name ∈ Context.names, name ≠ Context.laneHeader → Http.written given name = [] →
            request.headers.values name = [] := by
  intro url draft
  refine ⟨Topology.url_sent_fetch topology context service path options lane,
    context.get?_headers lane, fun request sent => ?_⟩
  have merged := Topology.merged_of_sent own sent
  refine ⟨merged, ?_⟩
  rintro named rfl nonempty name hm other missing
  have kept : (some named).filter (· ≠ "") = some named :=
    Option.filter_some_pos (decide_eq_true nonempty)
  rw [merged.context name hm missing, Context.get?_headers, Context.injected, kept]
  simp [other]

/-- Headers of a caller with a lane in two spellings and a type of its own. -/
def mixedHeaders : List (String × List UInt8) :=
  [("X-Lane", utf8 "mine"), ("Content-Type", utf8 "text/plain"), ("x-lane", utf8 "yours")]

/-- A context whose application has a line break in its name. -/
def brokenContext : Context := ⟨some "feat-x", some "trace-1", some "a\nb"⟩

/-- Both lanes of the caller stand in place of that of the context, the trace id of the context
    stays, and its application is left out. -/
theorem caller_headers_win_mixed :
    let options : Options := ⟨"POST", .ofList mixedHeaders, some .null, none⟩
    ∃ request, (deployed.fetch brokenContext "svc" "/p" options none).sent = .ok request ∧
      request.headers.values "x-lane" = [utf8 "mine", utf8 "yours"] ∧
      request.headers.values "x-trace-id" = [utf8 "trace-1"] ∧
      request.headers.values "x-app-name" = [] ∧
      request.headers.values "content-type" = [utf8 "text/plain"] := by
  intro options
  obtain ⟨same, injected, carries⟩ :=
    caller_headers_win deployed brokenContext "svc" "/p" none options mixedHeaders rfl
  cases sent : (deployed.fetch brokenContext "svc" "/p" options none).sent with
  | error failure =>
    have readable : ((Http.Draft.new "POST" (deployed.url brokenContext "svc" "/p" none)).sent.map
      (·.url)).isOk = true := by decide +kernel
    rw [← show options.method = "POST" from rfl, ← same, sent] at readable
    exact nomatch readable
  | ok request =>
    have merged := (carries request sent).1
    have given : Http.written mixedHeaders "x-lane" = [utf8 "mine", utf8 "yours"] ∧
      Http.written mixedHeaders "content-type" = [utf8 "text/plain"] := by decide
    have left : Http.written mixedHeaders "x-trace-id" = [] ∧
      Http.written mixedHeaders "x-app-name" = [] := by decide
    refine ⟨request, rfl, ?_, ?_, ?_, ?_⟩
    · exact (merged.caller _ (by rw [given.1]; exact List.cons_ne_nil _ _)).trans given.1
    · rw [merged.context "x-trace-id" (by decide) left.1, injected]
      decide
    · rw [merged.context "x-app-name" (by decide) left.2, injected]
      decide
    · exact (merged.caller _ (by rw [given.2]; exact List.cons_ne_nil _ _)).trans given.2

end Routing

end Laneway
