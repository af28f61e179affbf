import Laneway.Proofs.Json.Exact
import Laneway.Proofs.Routing.Address
import Laneway.Proofs.Routing.NextHop
import Laneway.Proofs.Routing.Resolution
import Laneway.Proofs.Webhook.Course

set_option autoImplicit false

/-! # What becomes of a relayed event

An event is relayed in the lane that a call on its bot returns, and in no other: the lane is what
the cache still keeps of an earlier lookup or what the store has answered to the call itself, and a
store that fails has the event relayed as that of a bot without binding. When the request can be
made at all it is made once, and what comes back for it decides the outcome. Following redirections
is left to the network. -/

namespace Laneway

/-! ## Where the lane comes from -/

namespace Binding.Resolving

variable {lifetime : Duration} {store : Store} {history : List Moment} {s : Resolving} {key : Key}
  {lane : Option String}

/-- Where the lane comes from that a call on the key returns in the last moment of the history. -/
inductive Origin (lifetime : Duration) (key : Key) : List Moment → Option String → Prop
  /-- It is the latest finding since the last drop, and is within its lifetime. -/
  | kept {earlier : List Moment} {m : Moment} {f : Finding}
      (latest : (findings key earlier).getLast? = some f) (holds : f.Holds lifetime m.before.now) :
      Origin lifetime key (earlier ++ [m]) f.lane
  /-- It is what the store has answered to the lookup of this call. -/
  | asked {earlier : List Moment} {m r : Moment} {id : LookupId} {answer : Answer}
      (begun : .called key (.waiting id) ∈ earlier.map Moment.event) (mem : r ∈ earlier)
      (read : r.event = .read id ⟨key, some answer⟩) (answered : r.before.store key = answer)
      (ended : m.event = .ended id (.lane (laneOf answer))) :
      Origin lifetime key (earlier ++ [m]) (laneOf answer)

theorem laneOf_of_outcome {answer : Answer} (returned : .lane lane = s.outcome answer) :
    lane = laneOf answer := by
  cases answer with
  | error fault => exact Outcome.lane.inj returned
  | ok found =>
    simp only [outcome] at returned
    split at returned
    · exact Outcome.lane.inj returned
    · cases returned

/-- The last moment of a history by its event. -/
theorem eq_concat_of_map_event {events : List Event} {event : Event}
    (trace : history.map Moment.event = events ++ [event]) :
    ∃ earlier m, history = earlier ++ [m] ∧ earlier.map Moment.event = events ∧
      m.event = event := by
  obtain ⟨earlier, last, rfl, rfl, single⟩ := List.map_eq_append_iff.1 trace
  obtain ⟨m, rfl, happened⟩ := List.map_eq_singleton_iff.1 single
  exact ⟨earlier, m, rfl, rfl, happened⟩

/-- A lane that a call returns was found before and still holds, or is what the store has answered
    to the call. -/
theorem Run.origin (run : Run lifetime store history s)
    (returns : Returns key (history.map Moment.event) lane) : Origin lifetime key history lane := by
  generalize trace : history.map Moment.event = events at returns
  cases returns with
  | kept =>
    obtain ⟨earlier, ⟨before, move, event⟩, rfl, -, rfl⟩ := eq_concat_of_map_event trace
    obtain ⟨run, s', step⟩ := run.split
    cases change_of_step step with
    | answers kept =>
      obtain ⟨f, latest, holds, rfl⟩ := (run.answer?_eq_some_iff key before.now lane).1 kept
      exact .kept latest holds
  | looked begun =>
    obtain ⟨earlier, m, rfl, rfl, happened⟩ := eq_concat_of_map_event trace
    obtain ⟨b, mem, called⟩ := List.mem_map.1 begun
    obtain ⟨r, hr, read, returned⟩ := run.own_answer happened ⟨b, mem, called⟩
    obtain rfl := laneOf_of_outcome returned
    exact .asked begun hr read rfl happened

/-- What is known of the lookups that have read the store. -/
theorem Run.of_read (run : Run lifetime store history s) {id : LookupId} {l : Lookup}
    (read : .read id l ∈ history.map Moment.event) :
    id < s.resolver.queries ∧ l.answer ≠ none ∧
      ∀ l', s.resolver.lookups.lookup id = some l' → l' = l := by
  induction run with
  | start => exact nomatch read
  | @next history s s' move event run step ih =>
    have change := change_of_step step
    rw [List.map_append] at read
    rcases List.mem_append.1 read with old | new
    · obtain ⟨begun, answered, same⟩ := ih old
      refine ⟨Nat.lt_of_lt_of_le begun change.queries_le, answered, fun l' found => ?_⟩
      rcases change.lookup found with before | ⟨fresh, -⟩ | ⟨unread, -⟩
      · exact same l' before
      · exact absurd begun (Nat.not_lt_of_le (Nat.le_of_eq fresh.symm))
      · exact absurd (congrArg Lookup.answer (same _ unread)).symm answered
    · obtain rfl : event = .read id l := (List.mem_singleton.1 new).symm
      cases change with
      | reads found =>
        refine ⟨(run.leads.numbered fun _ _ => rfl).lt found, nofun, fun l' kept => ?_⟩
        exact (Option.some.inj ((lookup_replaced found _).symm.trans kept)).symm

/-- A lookup reads the store once. -/
theorem Run.read_unique (run : Run lifetime store history s) {id : LookupId} {l l' : Lookup}
    (read : .read id l ∈ history.map Moment.event)
    (read' : .read id l' ∈ history.map Moment.event) : l = l' := by
  induction run with
  | start => exact nomatch read
  | @next history s s' move event run step ih =>
    rw [List.map_append] at read read'
    -- a second read needs a lookup that has not read yet
    have once {l l' : Lookup} (old : .read id l ∈ history.map Moment.event)
        (new : .read id l' ∈ [event]) : l = l' := by
      obtain ⟨-, answered, same⟩ := run.of_read old
      obtain rfl := List.mem_singleton.1 new
      cases change_of_step step with
      | reads found => exact absurd (congrArg Lookup.answer (same _ found)).symm answered
    rcases List.mem_append.1 read with old | new
    · rcases List.mem_append.1 read' with old' | new'
      · exact ih old old'
      · exact once old new'
    · rcases List.mem_append.1 read' with old' | new'
      · exact (once old' new).symm
      · have same := (List.mem_singleton.1 new).trans (List.mem_singleton.1 new').symm
        exact (Event.read.inj same).2

/-- The last moment ends a call on the key that found no answer in the cache, and to whose lookup
    the store has failed to answer. -/
def Fails (key : Key) (history : List Moment) : Prop :=
  ∃ earlier m id fault outcome, history = earlier ++ [m] ∧
    .called key (.waiting id) ∈ earlier.map Moment.event ∧
    .read id ⟨key, some (.error fault)⟩ ∈ earlier.map Moment.event ∧ m.event = .ended id outcome

/-- A call that fails returns no lane. -/
theorem Run.returned_of_fails (run : Run lifetime store history s) (fails : Fails key history) :
    Returns key (history.map Moment.event) none := by
  obtain ⟨earlier, m, id, fault, outcome, rfl, begun, failed, ended⟩ := fails
  obtain ⟨b, mem, called⟩ := List.mem_map.1 begun
  obtain ⟨r, hr, read, returned⟩ := run.own_answer ended ⟨b, mem, called⟩
  obtain ⟨before, -, -⟩ := run.split
  have same := before.read_unique failed (List.mem_map.2 ⟨r, hr, read⟩)
  have answer : r.before.store key = .error fault :=
    (Option.some.inj (Lookup.mk.inj same).2).symm
  rw [answer] at returned
  rw [List.map_append, List.map_singleton, ended, returned]
  exact .looked begun

theorem Returns.unique {events : List Event} {other : Option String}
    (returns : Returns key events lane) (returns' : Returns key events other) : lane = other := by
  cases returns with
  | kept =>
    generalize same : _ ++ [_] = events at returns'
    cases returns' with
    | kept =>
      have last := (List.append_inj' same rfl).2
      exact Option.some.inj (by simpa using last)
    | looked => exact absurd (List.append_inj' same rfl).2 (by simp)
  | looked =>
    generalize same : _ ++ [_] = events at returns'
    cases returns' with
    | kept => exact absurd (List.append_inj' same rfl).2 (by simp)
    | looked =>
      have last := (List.append_inj' same rfl).2
      simp only [List.cons.injEq, Resolving.Event.ended.injEq, Outcome.lane.injEq, and_true] at last
      exact last.2

end Binding.Resolving

/-! ## What a request carries -/

namespace Http

/-- The value of an authorization header that proves who is asking by a bearer secret. -/
def isBearer (value : List UInt8) : Bool := (utf8 "Bearer ").isPrefixOf value

/-- The request without the values of one header. -/
def Request.without (request : Request) (name : String) : Request :=
  { request with headers := request.headers.filter fun h => h.1 ≠ name }

theorem Draft.header_of_sendable {text : String} (sendable : Sendable text) (request : Request)
    (name : String) : Draft.header (.ok request) name text =
      .ok { request with headers := request.headers.append name (utf8 text) } := by
  have value : Headers.sendable? text = some (utf8 text) := if_pos sendable
  simp only [Draft.header, value, bind, Except.bind]

theorem Draft.header_of_not_sendable {text : String} (unsendable : ¬ Sendable text)
    (request : Request) (name : String) :
    Draft.header (.ok request) name text = .error .invalid := by
  have value : Headers.sendable? text = none := if_neg unsendable
  simp only [Draft.header, value, bind, Except.bind]

end Http

namespace Webhook

open Binding (Resolving Key)

/-! ## Requests for events -/

namespace Relay

section

variable (relay : Relay) (topology : Routing.Topology) (lane : Option String) (traceId : String)
  (event : Event)

/-- The URL of the request, as text. -/
def address : String :=
  topology.url .empty relay.target.service relay.target.path lane

/-- The URL and the headers that every request for an event has are ones that may be sent. -/
structure Valid : Prop where
  url : ∃ url, Http.Url.parse? (relay.address topology lane) = some url ∧
    (Http.Request.withoutCredentials ⟨"POST", url, [], [], none⟩).url.isSendable = true
  bot : Http.Sendable event.bot
  trace : Http.Sendable traceId
  secret : Http.Sendable ("Bearer " ++ relay.secret)

/-- The lane is a feature lane in which the target service is deployed. -/
def Serves (name : String) : Prop :=
  lane = some name ∧ name ≠ "" ∧ name ≠ "prod" ∧
    ∃ info, topology.get? relay.target.service = some info ∧ name ∈ info.lanes

/-- The host for this lane: that of the lane where the service is deployed in it, and the bare one
    otherwise. -/
inductive Host : String → Prop
  | ofLane {name : String} (serves : relay.Serves topology lane name) :
      Host (relay.target.service ++ "-" ++ name)
  | bare (unserved : ∀ name, ¬ relay.Serves topology lane name) : Host relay.target.service

/-- What a request for an event is made of. -/
structure Makes (request : Http.Request) : Prop where
  method : request.method = "POST"
  /-- Its URL is that of the target at the host for the lane, but credentials in it may have moved
      into a header. -/
  url : ∃ host url, relay.Host topology lane host ∧
    Http.Url.parse? ("http://" ++ host ++
      Routing.Topology.portText (topology.port relay.target.service) ++ relay.target.path) =
        some url ∧
      (request.url = url ∨ request.url = { url with credentials := none })
  /-- With an ordinary name for a host it goes to just that host and to the port of the target, and
      nothing but the secret proves who is asking. -/
  goal : ∀ host path, relay.Host topology lane host → Http.OrdinaryHost host →
    relay.target.path = "/" ++ path → request.url.scheme = .http ∧ request.url.host = host ∧
      request.url.port = Http.namedPort (topology.port relay.target.service) ∧
      request.headers.values Http.authorization = [utf8 ("Bearer " ++ relay.secret)]
  app : request.headers.values Context.appHeader = [utf8 event.bot]
  trace : request.headers.values Context.traceHeader = [utf8 traceId]
  secret : (request.headers.values Http.authorization).filter Http.isBearer =
    [utf8 ("Bearer " ++ relay.secret)]
  lane : request.headers.values Context.laneHeader =
    ((lane.filter fun name => name ≠ "" ∧ Http.Sendable name).map utf8).toList
  body : Json.readExact request.body =
    .ok (.obj [("event_type", .str event.type), ("params", event.params)])
  /-- The reader with limits reads the body too, unless its numbers or its nesting are beyond them.
      -/
  limited : Json.Readable Json.readNumber Json.depthLimit event.body →
    Json.readRaw request.body = .ok event.body

/-- What becomes of a request: other hosts see it once, unless none is reached, and what comes back
    for it decides the outcome. -/
structure Exchanges (network : Http.Network) (request : Http.Request)
    (others : List Http.Request) (result : Except RelayFault Unit) : Prop where
  seen : network request ≠ .error .unreached → others = [request]
  unseen : network request = .error .unreached → others = []
  taken : result = .ok () ↔
    ∃ response, network request = .ok response ∧ 200 ≤ response.status ∧ response.status < 300
  refused : ∀ code body, result = .error (.status code body) ↔
    ∃ response, network request = .ok response ∧
      ¬ (200 ≤ response.status ∧ response.status < 300) ∧ code = response.status ∧
        body = Utf8.lossy response.body
  lost : ∀ failure, result = .error (.http failure) ↔ network request = .error failure

/-- What other hosts see of an event, and how its relay ends: one request is made when all its parts
    are valid, and nothing is sent otherwise. -/
structure Relays (network : Http.Network) (others : List Http.Request)
    (result : Except RelayFault Unit) : Prop where
  valid : relay.Valid topology lane traceId event → ∃ request,
    (relay.request topology lane traceId event).sent = .ok request ∧
      relay.Makes topology lane traceId event request ∧ Exchanges network request others result
  invalid : ¬ relay.Valid topology lane traceId event →
    others = [] ∧ result = .error (.http .invalid)

/-- What every request for an event carries of its own. -/
def ownHeaders : Http.Headers :=
  [(Context.appHeader, utf8 event.bot), (Context.traceHeader, utf8 traceId),
    (Http.authorization, utf8 ("Bearer " ++ relay.secret)),
    (Http.contentType, utf8 "application/json")]

/-- The beginning of the request: its URL, and what does not depend on the event. -/
def addressed (url : Http.Url) : Http.Request :=
  let base := Http.Request.withoutCredentials ⟨"POST", url, [], [], none⟩
  { base with headers := base.headers.override (Context.empty.headers lane) }

/-- The whole request. -/
def complete (url : Http.Url) : Http.Request :=
  { addressed lane url with
    headers := (addressed lane url).headers ++ relay.ownHeaders traceId event
    body := event.body.bytes }

end

variable {relay : Relay} {topology : Routing.Topology} {lane : Option String} {traceId : String}
  {event : Event}

/-- A context that holds nothing adds the lane, if it is one that may be sent, and nothing else. -/
theorem headers_empty (lane : Option String) : Context.empty.headers lane =
    ((lane.filter fun name => name ≠ "" ∧ Http.Sendable name).map
      fun name => (Context.laneHeader, utf8 name)).toList := by
  cases lane with
  | none => rfl
  | some name =>
    by_cases empty : name = ""
    · subst empty
      rfl
    · have carried : Context.empty.carried (some name) = [(Context.laneHeader, name)] := by
        simp [Context.carried, Option.filter, empty]
      rw [Context.headers, carried]
      by_cases sendable : Http.Sendable name
      · have value : Http.Headers.sendable? name = some (utf8 name) := if_pos sendable
        simp [Context.sendable, value, Option.filter, empty, sendable]
      · have value : Http.Headers.sendable? name = none := if_neg sendable
        simp [Context.sendable, value, Option.filter, empty, sendable]

/-- The hosts for a lane are those that the table has for the target. -/
theorem host_iff {host : String} :
    relay.Host topology lane host ↔ topology.Host relay.target.service lane host := by
  constructor
  · intro goes
    cases goes with
    | ofLane serves => exact .ofLane serves
    | bare unserved => exact .bare unserved
  · intro goes
    cases goes with
    | ofLane deployed => exact .ofLane deployed
    | bare undeployed => exact .bare undeployed

theorem host_servingLane (relay : Relay) (topology : Routing.Topology) (lane : Option String) :
    relay.Host topology lane (Lane.host relay.target.service
      (topology.servingLane relay.target.service lane)) :=
  host_iff.2 (topology.host_servingLane relay.target.service lane)

/-- There is one host for a lane. -/
theorem Host.unique {host other : String} (first : relay.Host topology lane host)
    (second : relay.Host topology lane other) : host = other :=
  (host_iff.1 first).unique (host_iff.1 second)

theorem address_eq (relay : Relay) (topology : Routing.Topology) (lane : Option String) :
    relay.address topology lane =
      "http://" ++ Lane.host relay.target.service
        (topology.servingLane relay.target.service lane) ++
          Routing.Topology.portText (topology.port relay.target.service) ++ relay.target.path := by
  cases lane <;> rfl

/-- The request begins with what credentials of the URL have become, and with the lane. -/
theorem headers_addressed (lane : Option String) (url : Http.Url) :
    ∃ basic : Option String, (url.credentials = none → basic = none) ∧
      (addressed lane url).headers =
        (basic.map fun text => (Http.authorization, utf8 ("Basic " ++ text))).toList ++
          Context.empty.headers lane := by
  rcases Http.withoutCredentials_cases "POST" url with same | ⟨held, basic, moved⟩
  · refine ⟨none, fun _ => rfl, ?_⟩
    rw [addressed, same]
    rfl
  · refine ⟨some basic, fun missing => absurd missing held, ?_⟩
    have other : (Context.empty.headers lane).has Http.authorization = false := by
      rw [headers_empty]
      cases lane.filter fun name => name ≠ "" ∧ Http.Sendable name with
      | none => rfl
      | some name => simp [Http.Headers.has, Context.laneHeader, Http.authorization]
    rw [addressed, moved]
    simp [Http.Headers.override, other]

theorem isBearer_basic (text : String) : Http.isBearer (utf8 ("Basic " ++ text)) = false := by
  rw [utf8_append]
  rfl

/-- Name by name, the headers the request begins with. -/
theorem values_addressed (lane : Option String) (url : Http.Url) :
    (addressed lane url).headers.values Context.laneHeader =
        ((lane.filter fun name => name ≠ "" ∧ Http.Sendable name).map utf8).toList ∧
      ((addressed lane url).headers.values Http.authorization).filter Http.isBearer = [] ∧
      (url.credentials = none → (addressed lane url).headers.values Http.authorization = []) ∧
      ∀ name, name ≠ Context.laneHeader → name ≠ Http.authorization →
        (addressed lane url).headers.values name = [] := by
  obtain ⟨basic, bare, headers⟩ := headers_addressed lane url
  rw [headers, headers_empty]
  generalize lane.filter (fun name => name ≠ "" ∧ Http.Sendable name) = sent
  have apart : ¬ Context.laneHeader = Http.authorization := by decide
  refine ⟨?_, ?_, fun missing => ?_, fun name noLane noAuthorization => ?_⟩
  · cases basic <;> cases sent <;> simp [Http.Headers.values, Ne.symm apart]
  · cases basic <;> cases sent <;>
      simp [Http.Headers.values, apart, isBearer_basic, -utf8_append]
  · rw [bare missing]
    cases sent <;> simp [Http.Headers.values, apart]
  · cases basic <;> cases sent <;>
      simp [Http.Headers.values, noLane.symm, noAuthorization.symm]

theorem request_addressed {url : Http.Url}
    (parsed : Http.Url.parse? (relay.address topology lane) = some url) :
    topology.request .empty "POST" relay.target.service relay.target.path lane =
      .ok (addressed lane url) := by
  have new : Http.Draft.new "POST" (relay.address topology lane) =
      .ok (Http.Request.withoutCredentials ⟨"POST", url, [], [], none⟩) := by
    rw [Http.Draft.new, parsed]
  rw [Routing.Topology.request, ← address, new]
  rfl

/-- With a URL and texts that may be sent the request is complete. -/
theorem request_complete {url : Http.Url}
    (parsed : Http.Url.parse? (relay.address topology lane) = some url)
    (bot : Http.Sendable event.bot) (trace : Http.Sendable traceId)
    (secret : Http.Sendable ("Bearer " ++ relay.secret)) :
    relay.request topology lane traceId event = .ok (relay.complete lane traceId event url) := by
  obtain ⟨-, -, -, others⟩ := values_addressed lane url
  have untyped : ((((addressed lane url).headers.append Context.appHeader (utf8 event.bot)).append
      Context.traceHeader (utf8 traceId)).append Http.authorization
        (utf8 ("Bearer " ++ relay.secret))).has Http.contentType = false := by
    rw [← Bool.not_eq_true, Http.Headers.has_iff, Decidable.not_not]
    simp only [Http.Headers.append, Http.Headers.values_append,
      others Http.contentType (by decide) (by decide)]
    rfl
  rw [request, request_addressed parsed, Http.Draft.header_of_sendable bot,
    Http.Draft.header_of_sendable trace, Http.Draft.bearer, Http.Draft.header_of_sendable secret]
  simp only [Http.Draft.json, Except.map, untyped, Bool.false_eq_true, if_false, complete,
    ownHeaders]
  simp only [Http.Headers.append, List.append_assoc, List.cons_append, List.nil_append]

theorem sent_of_valid (valid : relay.Valid topology lane traceId event) :
    ∃ url, Http.Url.parse? (relay.address topology lane) = some url ∧
      (relay.request topology lane traceId event).sent =
        .ok (relay.complete lane traceId event url) := by
  obtain ⟨url, parsed, sendable⟩ := valid.url
  have address : (relay.complete lane traceId event url).url.isSendable = true := sendable
  refine ⟨url, parsed, ?_⟩
  rw [request_complete parsed valid.bot valid.trace valid.secret]
  simp only [Http.Draft.sent, bind, Except.bind, address, if_true]

/-- Nothing is sent for an event when a part of its request is invalid. -/
theorem sent_of_not_valid (invalid : ¬ relay.Valid topology lane traceId event) :
    (relay.request topology lane traceId event).sent = .error .invalid := by
  cases parsed : Http.Url.parse? (relay.address topology lane) with
  | none =>
    have new : Http.Draft.new "POST" (relay.address topology lane) = .error .invalid := by
      rw [Http.Draft.new, parsed]
    rw [request, Routing.Topology.request, ← address, new]
    rfl
  | some url =>
    by_cases bot : Http.Sendable event.bot
    · by_cases trace : Http.Sendable traceId
      · by_cases secret : Http.Sendable ("Bearer " ++ relay.secret)
        · have address : (relay.complete lane traceId event url).url.isSendable = false := by
            rw [← Bool.not_eq_true]
            exact fun sendable => invalid ⟨⟨url, parsed, sendable⟩, bot, trace, secret⟩
          rw [request_complete parsed bot trace secret]
          simp [Http.Draft.sent, bind, Except.bind, address]
        · rw [request, request_addressed parsed, Http.Draft.header_of_sendable bot,
            Http.Draft.header_of_sendable trace, Http.Draft.bearer,
            Http.Draft.header_of_not_sendable secret]
          rfl
      · rw [request, request_addressed parsed, Http.Draft.header_of_sendable bot,
          Http.Draft.header_of_not_sendable trace]
        rfl
    · rw [request, request_addressed parsed, Http.Draft.header_of_not_sendable bot]
      rfl

/-- The URL of the request is the one that was read, but perhaps without its credentials. -/
theorem url_addressed (lane : Option String) (url : Http.Url) :
    (addressed lane url).url = url ∨
      (addressed lane url).url = { url with credentials := none } := by
  rcases Http.withoutCredentials_cases "POST" url with same | ⟨-, basic, moved⟩
  · exact .inl (congrArg Http.Request.url same)
  · exact .inr (congrArg Http.Request.url moved)

theorem method_addressed (lane : Option String) (url : Http.Url) :
    (addressed lane url).method = "POST" := by
  rcases Http.withoutCredentials_cases "POST" url with same | ⟨-, basic, moved⟩
  · exact congrArg Http.Request.method same
  · exact congrArg Http.Request.method moved

theorem values_complete (url : Http.Url) (name : String) :
    (relay.complete lane traceId event url).headers.values name =
      (addressed lane url).headers.values name ++ (relay.ownHeaders traceId event).values name :=
  Http.Headers.values_append _ _ _

theorem makes_complete {url : Http.Url}
    (parsed : Http.Url.parse? (relay.address topology lane) = some url) :
    relay.Makes topology lane traceId event (relay.complete lane traceId event url) := by
  obtain ⟨own, noBearer, bare, others⟩ := values_addressed lane url
  have secret : (relay.ownHeaders traceId event).values Http.authorization =
      [utf8 ("Bearer " ++ relay.secret)] := rfl
  refine
    { method := method_addressed lane url
      url := ⟨_, url, host_servingLane relay topology lane, address_eq relay topology lane ▸ parsed,
        url_addressed lane url⟩
      goal := fun host path goes ordinary rooted => ?_
      app := ?_, trace := ?_, secret := ?_, lane := ?_
      body := Json.readExact_bytes _
      limited := fun readable => readable.readRaw_bytes }
  · obtain ⟨read, reads, scheme, credentials, named, port⟩ :=
      Http.parse?_ordinary ordinary (topology.port relay.target.service) path
    rw [address_eq, (host_servingLane relay topology lane).unique goes, rooted, reads] at parsed
    obtain rfl := Option.some.inj parsed
    have kept : (relay.complete lane traceId event read).url = read := by
      rcases url_addressed lane read with same | same
      · exact same
      · cases read
        cases credentials
        exact same
    refine ⟨(congrArg Http.Url.scheme kept).trans scheme, (congrArg Http.Url.host kept).trans named,
      (congrArg Http.Url.port kept).trans port, ?_⟩
    rw [values_complete, bare credentials, secret, List.nil_append]
  · rw [values_complete, others _ (by decide) (by decide)]
    rfl
  · rw [values_complete, others _ (by decide) (by decide)]
    rfl
  · have bearer : Http.isBearer (utf8 ("Bearer " ++ relay.secret)) = true := by
      rw [utf8_append]
      exact List.isPrefixOf_iff_prefix.2 (List.prefix_append _ _)
    rw [values_complete, List.filter_append, noBearer, secret, List.nil_append,
      List.filter_cons_of_pos bearer, List.filter_nil]
  · rw [values_complete, own]
    exact List.append_nil _

/-! ## What comes back -/

theorem taken_ok (response : Http.Response) : taken (.ok response) =
    if 200 ≤ response.status ∧ response.status < 300 then .ok ()
    else .error (.status response.status (Utf8.lossy response.body)) := by
  simp [taken, Http.Response.isSuccess]

theorem taken_eq_ok_iff {answer : Except Http.Failure Http.Response} : taken answer = .ok () ↔
    ∃ response, answer = .ok response ∧ 200 ≤ response.status ∧ response.status < 300 := by
  cases answer with
  | error failure => simp [taken]
  | ok response =>
    rw [taken_ok]
    split <;> simp [*]

theorem taken_eq_status_iff {answer : Except Http.Failure Http.Response} {code : Nat}
    {body : String} : taken answer = .error (.status code body) ↔
      ∃ response, answer = .ok response ∧ ¬ (200 ≤ response.status ∧ response.status < 300) ∧
        code = response.status ∧ body = Utf8.lossy response.body := by
  cases answer with
  | error failure => simp [taken]
  | ok response =>
    rw [taken_ok]
    constructor
    · intro outcome
      split at outcome
      · exact nomatch outcome
      · next refused =>
        cases outcome
        exact ⟨response, rfl, refused, rfl, rfl⟩
    · rintro ⟨response, ⟨⟩, refused, rfl, rfl⟩
      exact if_neg refused

theorem taken_eq_http_iff {answer : Except Http.Failure Http.Response} {failure : Http.Failure} :
    taken answer = .error (.http failure) ↔ answer = .error failure := by
  cases answer with
  | error other => simp [taken]
  | ok response =>
    rw [taken_ok]
    split <;> simp

/-- Other hosts see what is sent, and what comes back for it decides. -/
theorem exchanges_of_sent {draft : Http.Draft} {request : Http.Request}
    (sent : draft.sent = .ok request) (network : Http.Network) :
    Exchanges network request (draft.seen network) (taken (draft.send network)) := by
  have outcome : draft.send network = network request := by
    rw [Http.Draft.send, sent]
    rfl
  rw [outcome]
  exact
    { seen := fun reached => by
        simp only [Http.Draft.seen, sent]
      unseen := fun unreached => by
        simp only [Http.Draft.seen, sent, unreached]
      taken := taken_eq_ok_iff
      refused := fun _ _ => taken_eq_status_iff
      lost := fun _ => taken_eq_http_iff }

/-- What becomes of the request for an event on any network. -/
theorem relays_request (relay : Relay) (topology : Routing.Topology) (lane : Option String)
    (traceId : String) (event : Event) (network : Http.Network) :
    relay.Relays topology lane traceId event network
      ((relay.request topology lane traceId event).seen network)
      (taken ((relay.request topology lane traceId event).send network)) where
  valid valid := by
    obtain ⟨url, parsed, sent⟩ := sent_of_valid valid
    exact ⟨_, sent, makes_complete parsed, exchanges_of_sent sent network⟩
  invalid invalid := by
    have sent := sent_of_not_valid invalid
    refine ⟨by rw [Http.Draft.seen, sent], ?_⟩
    rw [Http.Draft.send, sent]
    rfl

/-- Requests in one lane differ in their trace ids only. -/
theorem sent_without_trace {other : String} (trace : Http.Sendable traceId)
    (trace' : Http.Sendable other) :
    (relay.request topology lane traceId event).sent.map (·.without Context.traceHeader) =
      (relay.request topology lane other event).sent.map (·.without Context.traceHeader) := by
  by_cases valid : relay.Valid topology lane traceId event
  · obtain ⟨url, parsed, sent⟩ := sent_of_valid valid
    obtain ⟨url', parsed', sent'⟩ :=
      sent_of_valid ⟨valid.url, valid.bot, trace', valid.secret⟩
    obtain rfl := Option.some.inj (parsed.symm.trans parsed')
    rw [sent, sent']
    simp only [Except.map, Http.Request.without, complete, List.filter_append]
    rfl
  · rw [sent_of_not_valid valid,
      sent_of_not_valid fun valid' => valid ⟨valid'.url, valid'.bot, trace, valid'.secret⟩]

end Relay

/-! ## Relaying in the lane of the bot -/

open Delivering

/-- What holds of a delivery of the event at any time. -/
structure Relayed (relay : Relay) (traceIds : Nat → String) (lifetime : Duration) (event : Event)
    (id : DeliveryId) (history : List Moment) (d : Delivering) : Prop where
  /-- It calls for the lane of its bot, makes one request in the lane that the call returns, and ends
      with what is taken of the answer; it crashes, without a request, if the call does. -/
  course : ∃ whole, Course relay traceIds event whole ∧ deeds id history <+: whole
  /-- It goes on until its course is whole. -/
  goesOn : Course relay traceIds event (deeds id history) ∨ d.GoesOn id
  /-- The lane that its call returns was kept of an earlier lookup, and still holds, or is what the
      store has answered to the call itself. -/
  lane : ∀ earlier m later deed lane, history = earlier ++ m :: later →
    m.occurrence = .did id deed → Fetch ⟨.bot, event.bot⟩ lane (deeds id earlier ++ [deed]) →
      Resolving.Origin lifetime ⟨.bot, event.bot⟩ (resolvings (earlier ++ [m])) lane
  /-- When the store fails the call, the bot counts as one without binding. -/
  unbound : ∀ earlier m later deed lane, history = earlier ++ m :: later →
    m.occurrence = .did id deed → Fetch ⟨.bot, event.bot⟩ lane (deeds id earlier ++ [deed]) →
      Resolving.Fails ⟨.bot, event.bot⟩ (resolvings (earlier ++ [m])) → lane = none
  /-- Its request is made for the services as they are then. -/
  services : ∀ m ∈ history, ∀ topology trace draft,
    m.occurrence = .did id (.requested topology trace draft) → topology = m.before.topology
  /-- Each request, of whatever delivery, has a trace id of its own. -/
  fresh : (traces history).Nodup

/-- An event is relayed in the lane that the call of its delivery on its bot returns, and in no other.
    When the URL and the headers are valid one request is sent, to the host for the lane, which
    carries the lane, the bot, a new trace id, the secret and the event, and what comes back for it
    decides the outcome; nothing is sent otherwise. Requests in one lane differ in their trace ids
    only. -/
theorem relayed_in_lane_of_bot {relay : Relay} {traceIds : Nat → String}
    {topology : Routing.Topology} {lifetime : Duration} {store : Binding.Store}
    {history : List Moment} {d : Delivering}
    (run : Run (.new relay traceIds topology lifetime store) history d) {id : DeliveryId}
    {event : Event} (begun : (id, event) ∈ begins history) :
    Relayed relay traceIds lifetime event id history d ∧
    (∀ topology lane traceId network, relay.Relays topology lane traceId event network
      ((relay.request topology lane traceId event).seen network)
      (Relay.taken ((relay.request topology lane traceId event).send network))) ∧
    (∀ topology lane traceId other, Http.Sendable traceId → Http.Sendable other →
      (relay.request topology lane traceId event).sent.map (·.without Context.traceHeader) =
        (relay.request topology lane other event).sent.map (·.without Context.traceHeader)) := by
  refine ⟨?_, fun topology lane traceId network => relay.relays_request ..,
    fun _ _ _ _ trace trace' => Relay.sent_without_trace trace trace'⟩
  exact
    { course := (run.reached begun).course
      goesOn := run.goesOn begun
      lane := fun earlier m later deed lane parts did fetched => by
        subst parts
        obtain ⟨d', prior⟩ := run.prior
        exact prior.toResolving.origin (run.returns did fetched)
      unbound := fun earlier m later deed lane parts did fetched fails => by
        subst parts
        obtain ⟨d', prior⟩ := run.prior
        exact (run.returns did fetched).unique (prior.toResolving.returned_of_fails fails)
      services := fun m mem topology trace draft did => by
        obtain ⟨earlier, later, rfl⟩ := List.append_of_mem mem
        obtain ⟨-, d', step⟩ := run.split
        exact topology_of_requested (did ▸ step)
      fresh := by
        rw [run.traces_eq rfl]
        exact List.nodup_range }

/-- An event of a bot that is bound to the lane `dev`. -/
def greeting : Event := ⟨"im.message.receive_v1", "greeter", .obj []⟩

/-- The target is deployed in the lane `dev`, and listens on a port of its own. -/
def deployed : Routing.Topology :=
  ⟨[("lark-server", ⟨⟨["dev"], by simp⟩, 8080⟩)], by simp⟩

/-- A relay over a store that knows the lane of every bot. -/
def greeted : Delivering :=
  .new ⟨.standard, "secret"⟩ (fun n => "t-" ++ toString n) deployed (.ofSeconds 30)
    fun _ => .ok (some "dev")

/-- Every host takes what it is sent. -/
def takesAll : Http.Network := fun _ => .ok ⟨204, []⟩

/-- What the delivery of the event sends. -/
def greetingDraft : Http.Draft :=
  Relay.request ⟨.standard, "secret"⟩ deployed (some "dev") "t-0" greeting

/-- The delivery asks the store for the lane of the bot, and its request is taken. -/
theorem run_greeted : ∃ history d, Run greeted history d ∧ begins history = [(0, greeting)] ∧
    deeds 0 history = [.called ⟨.bot, greeting.bot⟩ (.waiting 0), .returned 0 (.lane (some "dev")),
      .requested deployed 0 greetingDraft, .answered takesAll (greetingDraft.seen takesAll),
      .ended (Relay.taken (greetingDraft.send takesAll))] := by
  have begins := @Run.next greeted _ _ _ (.deliver greeting) _ .start rfl
  have calls := @Run.next _ _ _ _ (.turn 0) _ begins rfl
  have reads := @Run.next _ _ _ _ (.resolver (.read 0)) _ calls rfl
  have returns := @Run.next _ _ _ _ (.resolver (.complete 0)) _ reads rfl
  have requests := @Run.next _ _ _ _ (.turn 0) _ returns rfl
  have answers := @Run.next _ _ _ _ (.answer 0 takesAll) _ requests rfl
  exact ⟨_, _, @Run.next _ _ _ _ (.turn 0) _ answers rfl, rfl, rfl⟩

theorem relayed_in_lane_of_bot_bound : ∃ history d request,
    Run greeted history d ∧ (0, greeting) ∈ begins history ∧
      deeds 0 history = [.called ⟨.bot, greeting.bot⟩ (.waiting 0),
        .returned 0 (.lane (some "dev")), .requested deployed 0 greetingDraft,
        .answered takesAll [request], .ended (.ok ())] ∧
      (traces history).Nodup ∧ request.url.host = "lark-server-dev" ∧
      request.url.port = some 8080 ∧
      request.headers.values Context.laneHeader = [utf8 "dev"] ∧
      request.headers.values Context.traceHeader = [utf8 "t-0"] := by
  obtain ⟨history, d, run, began, done⟩ := run_greeted
  have begun : (0, greeting) ∈ begins history := began ▸ List.mem_cons_self
  obtain ⟨relayed, relays, -⟩ := relayed_in_lane_of_bot run begun
  have url : ((Http.Url.parse? (Relay.address ⟨.standard, "secret"⟩ deployed (some "dev"))).map
      fun url => (Http.Request.withoutCredentials ⟨"POST", url, [], [], none⟩).url.isSendable) =
        some true := by decide +kernel
  obtain ⟨request, -, makes, exchanges⟩ := (relays deployed (some "dev") "t-0" takesAll).valid
    ⟨Option.map_eq_some_iff.1 url, by decide, by decide, by decide⟩
  have serves : Relay.Serves ⟨.standard, "secret"⟩ deployed (some "dev") "dev" :=
    ⟨rfl, by decide, by decide, _, rfl, by decide⟩
  have ordinary : Http.OrdinaryHost "lark-server-dev" :=
    ⟨List.all_eq_true.1 (by decide), by decide, by decide⟩
  obtain ⟨-, host, port, -⟩ := makes.goal _ "api/internal/lark-event" (.ofLane serves) ordinary rfl
  have seen : greetingDraft.seen takesAll = [request] := exchanges.seen nofun
  have taken : Relay.taken (greetingDraft.send takesAll) = .ok () :=
    exchanges.taken.2 ⟨⟨204, []⟩, rfl, by decide, by decide⟩
  rw [seen, taken] at done
  exact ⟨history, d, request, run, begun, done, relayed.fresh, host, port, makes.lane, makes.trace⟩

end Webhook

end Laneway
