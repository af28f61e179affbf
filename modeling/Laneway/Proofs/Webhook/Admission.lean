import Laneway.Proofs.Json.Members
import Laneway.Server.Rehearsal

set_option autoImplicit false

/-! # Which webhooks are admitted, and what comes of them

A webhook is answered for a bot by the last of its rows that counts. It has to carry the token of
that row before anything else in its body is looked at: only then is a handshake answered, or an
event relayed. What is turned away, and what is a mere handshake, changes nothing in the server: no
relay begins, and no lane is looked up. -/

namespace Laneway.Webhook

/-! ## The row of a bot -/

/-- The bot gets webhooks: its events come over HTTP, and it is no development bot in production. -/
def Bot.Receives (production : Bool) (bot : Bot) : Prop :=
  bot.delivery = "http" ∧ ¬ (production = true ∧ bot.isDev = true)

/-- The bot is the last row of this name among those of bots that get webhooks. -/
def Stands (rows : List Bot) (production : Bool) (name : String) (bot : Bot) : Prop :=
  bot.name = name ∧ bot.Receives production ∧
    ∃ earlier later, rows = earlier ++ bot :: later ∧
      ∀ other ∈ later, other.Receives production → other.name ≠ name

theorem Bot.isSelected_iff {production : Bool} {bot : Bot} :
    bot.isSelected production = true ↔ bot.Receives production := by
  simp only [isSelected, Bool.and_eq_true, decide_eq_true_eq]
  cases production <;> simp [Receives, httpDelivery]

theorem Bots.get?_load_eq_some_iff {rows : List Bot} {production : Bool} {name : String}
    {bot : Bot} :
    (Bots.load rows production).get? name = some bot ↔ Stands rows production name bot := by
  simp only [get?, load, selectBots, List.findRev?_eq_find?_reverse, ← List.filter_reverse,
    List.find?_filter, List.find?_eq_some_iff_append, Bot.isSelected_iff, decide_eq_true_eq,
    Bool.not_eq_true', decide_eq_false_iff_not]
  constructor
  · rintro ⟨⟨receives, named⟩, later, earlier, parts, last⟩
    refine ⟨named, receives, earlier.reverse, later.reverse, ?_, ?_⟩
    · simpa using congrArg List.reverse parts
    · intro other hother receives' named'
      exact last other (List.mem_reverse.1 hother) ⟨receives', named'⟩
  · rintro ⟨named, receives, earlier, later, rfl, last⟩
    refine ⟨⟨receives, named⟩, later.reverse, earlier.reverse, by simp, ?_⟩
    rintro other hother ⟨receives', named'⟩
    exact last other (List.mem_reverse.1 hother) receives' named'

/-- No row of this name counts exactly when there is no bot. -/
theorem Bots.get?_load_eq_none_iff {rows : List Bot} {production : Bool} {name : String} :
    (Bots.load rows production).get? name = none ↔ ∀ bot, ¬ Stands rows production name bot := by
  simp only [Option.eq_none_iff_forall_ne_some, ne_eq, get?_load_eq_some_iff]

/-! ## What a body carries -/

/-- The token in a body, whatever it is: that of the header if there is one, else that of the body.
    -/
def carriedToken (body : Json) : Option Json :=
  ((body.get? "header").bind (Json.get? "token")).or (body.get? "token")

/-- The body carries the token that the bot's row asks for, if it asks for any. -/
def Authentic (bot : Bot) (body : Json) : Prop :=
  ∀ token, bot.token = some token → token ≠ "" → carriedToken body = some (.str token)

/-- The body asks for nothing but its challenge. -/
def Handshake (body : Json) (challenge : String) : Prop :=
  body.get? "type" = some (.str "url_verification") ∧ body.get? "challenge" = some (.str challenge)

theorem str?_eq_some_iff {value : Json} {text : String} :
    value.str? = some text ↔ value = .str text := by
  cases value <;> simp [Json.str?]

theorem bind_str?_eq_some_iff {value : Option Json} {text : String} :
    value.bind Json.str? = some text ↔ value = some (.str text) := by
  cases value <;> simp [str?_eq_some_iff]

theorem tokenOf_eq_some_iff {body : Json} {token : String} :
    Inbound.tokenOf body = some token ↔ carriedToken body = some (.str token) := by
  unfold Inbound.tokenOf carriedToken
  cases (body.get? "header").bind (Json.get? "token") with
  | some value => simp [str?_eq_some_iff]
  | none => simp [bind_str?_eq_some_iff]

theorem accepts_iff {bot : Bot} {body : Json} :
    bot.accepts (Inbound.tokenOf body) = true ↔ Authentic bot body := by
  unfold Bot.accepts Bot.expectedToken Authentic
  cases bot.token with
  | none => simp
  | some token =>
    by_cases empty : token = ""
    · simp [Option.filter, empty]
    · simp [Option.filter, empty, tokenOf_eq_some_iff]

theorem challengeOf_eq_some_iff {body : Json} {challenge : String} :
    Inbound.challengeOf body = some challenge ↔ Handshake body challenge := by
  unfold Inbound.challengeOf Handshake
  split
  · next verification =>
    simp [bind_str?_eq_some_iff, bind_str?_eq_some_iff.1 verification]
  · next other =>
    simp only [reduceCtorEq, false_iff, not_and]
    exact fun verification => absurd (bind_str?_eq_some_iff.2 verification) other

theorem challengeOf_eq_none_iff {body : Json} :
    Inbound.challengeOf body = none ↔ ∀ challenge, ¬ Handshake body challenge := by
  simp only [Option.eq_none_iff_forall_ne_some, ne_eq, challengeOf_eq_some_iff]

/-! ## What is relayed of it -/

/-- What is relayed of the body of an event. Of an envelope of two objects it is one object with the
    fields of both, where those of the event come over those of the header. -/
inductive Flattened (body : Json) : Json → Prop
  | envelope {header event fields : List (String × Json)}
      (hasHeader : body.get? "header" = some (.obj header))
      (hasEvent : body.get? "event" = some (.obj event)) (sorted : Json.Sorted fields)
      (union : ∀ key, (Json.obj fields).get? key =
        ((Json.obj event).get? key).or ((Json.obj header).get? key)) :
      Flattened body (.obj fields)
  | whole (other : ∀ header event, body.get? "header" = some (.obj header) →
      body.get? "event" ≠ some (.obj event)) : Flattened body body

/-- The type that the relayed fields name. -/
inductive Announces (params : Json) : String → Prop
  | named {eventType : String} (named : params.get? "event_type" = some (.str eventType))
      (shown : eventType ≠ "") : Announces params eventType
  | unknown (unnamed : ∀ eventType, params.get? "event_type" = some (.str eventType) →
      eventType = "") : Announces params "unknown"

theorem flattened_flatten (body : Json) : Flattened body (Inbound.flatten body) := by
  unfold Inbound.flatten
  split
  · next header event hasHeader hasEvent =>
    refine .envelope hasHeader hasEvent (Json.sorted_sortMembers _) fun key => ?_
    rw [Json.get?_sortMembers, Json.get?_append]
  · next other =>
    exact .whole fun header event hasHeader hasEvent => other header event hasHeader hasEvent

theorem announces_typeOf (params : Json) : Announces params (Inbound.typeOf params) := by
  unfold Inbound.typeOf
  cases h : ((params.get? "event_type").bind Json.str?).filter (· ≠ "") with
  | some eventType =>
    obtain ⟨named, shown⟩ := Option.filter_eq_some_iff.1 h
    exact .named (bind_str?_eq_some_iff.1 named) (by simpa using shown)
  | none =>
    refine .unknown fun eventType named => ?_
    simpa [bind_str?_eq_some_iff.2 named] using h

/-- The events that are relayed. -/
def Registered (eventType : String) : Prop :=
  eventType = "card.action.trigger" ∨ eventType ∈ registeredTypes

theorem isForwardable_iff {eventType : String} :
    isForwardable eventType = true ↔ Registered eventType := by
  simp only [isForwardable, Bool.or_eq_true, decide_eq_true_eq, List.contains_iff_mem]
  exact Iff.rfl

end Laneway.Webhook

namespace Laneway.Server

open Webhook

/-! ## How a webhook comes in -/

/-- The two places where webhooks come in. -/
inductive Endpoint where
  | event
  | card

namespace Endpoint

def route (bot : String) : Endpoint → Route
  | .event => .event bot
  | .card => .card bot

def inbound (body : Json) : Endpoint → Inbound
  | .event => .ofEvent body
  | .card => .ofCard body

/-- What a body that is no handshake brings: the type of an event, and what is relayed of it. -/
inductive Conveys (body : Json) : Endpoint → String → Json → Prop
  | event {eventType : String} {params : Json} (flattened : Flattened body params)
      (announces : Announces params eventType) : Conveys body .event eventType params
  | card : Conveys body .card "card.action.trigger" body

variable {body : Json}

theorem token_inbound (endpoint : Endpoint) :
    (endpoint.inbound body).token = Inbound.tokenOf body := by
  cases endpoint with
  | event => exact Inbound.token_ofEvent body
  | card => exact Inbound.token_ofCard body

theorem inbound_of_handshake (endpoint : Endpoint) {challenge : String}
    (handshake : Handshake body challenge) :
    endpoint.inbound body = .challenge challenge (Inbound.tokenOf body) := by
  have asked := challengeOf_eq_some_iff.2 handshake
  cases endpoint <;> simp [inbound, Inbound.ofEvent, Inbound.ofCard, asked]

theorem inbound_of_not_handshake (endpoint : Endpoint)
    (other : ∀ challenge, ¬ Handshake body challenge) :
    ∃ eventType params, endpoint.Conveys body eventType params ∧
      endpoint.inbound body = .payload eventType (Inbound.tokenOf body) params := by
  have unasked := challengeOf_eq_none_iff.2 other
  cases endpoint with
  | event =>
    refine ⟨_, _, .event (flattened_flatten body) (announces_typeOf _), ?_⟩
    simp [inbound, Inbound.ofEvent, unasked]
  | card =>
    refine ⟨_, _, .card, ?_⟩
    simp [inbound, Inbound.ofCard, unasked, cardActionType]

end Endpoint

/-- The request brings this JSON body to the endpoint of this bot. -/
structure Arrives (request : Incoming) (endpoint : Endpoint) (bot : String) (body : Json) :
    Prop where
  method : request.method = "POST"
  path : ∃ written, Route.ofPath request.path = some (endpoint.route written) ∧
    parameter? written = some bot
  body : App.body request = .ok body

theorem App.handle_of_arrives {app : App} {fresh : Fresh} {request : Incoming} {endpoint : Endpoint}
    {name : String} {body : Json} (arrives : Arrives request endpoint name body) :
    app.handle fresh request = match app.accept name (endpoint.inbound body) with
      | .ok answered => answered
      | .error refusal => (refusal.reply, none) := by
  obtain ⟨method, ⟨written, routed, named⟩, hasBody⟩ := arrives
  have answered : app.answer fresh request (endpoint.route written) =
      app.accept name (endpoint.inbound body) := by
    cases endpoint <;>
      simp [answer, Endpoint.route, Endpoint.inbound, pathText, named, hasBody, bind, Except.bind]
  have allowed : "POST" ∈ (endpoint.route written).methods := by
    cases endpoint <;> simp [Endpoint.route, Route.methods]
  have dispatched : app.dispatch fresh request = app.accept name (endpoint.inbound body) := by
    simp only [dispatch, routed, method, allowed, if_true, answered]
  have notHead : ¬ "POST" = "HEAD" := by decide
  cases accepted : app.accept name (endpoint.inbound body) <;>
    simp only [handle, dispatched, accepted, method, if_neg notHead]

/-! ## What comes of it -/

/-- The request is answered with this reply and sets off this relay, if any. One relay begins then;
    otherwise nothing happens at all, so that no relay begins, no lane is looked up and no other
    host sees a request. -/
structure Answered (s : Rehearsal.Stage) (request : Incoming) (reply : Reply)
    (relay : Option Event) : Prop where
  handled : s.app.handle s.fresh request = (reply, relay.map .relay)
  replied : (s.play (.request request)).2 = .reply reply
  begun : (s.play (.request request)).1.tracker.begun = s.tracker.begun + relay.toList.length
  idle : relay = none → (s.play (.request request)).1 = s

/-- Carrying a delivery on leaves the tracker as it is. -/
theorem tracker_carryOut (s : Rehearsal.Stage) (delivery : Delivery) :
    (s.carryOut delivery).1.tracker = s.tracker := by
  induction delivery generalizing s with
  | call key next ih =>
    simp only [Rehearsal.Stage.carryOut]
    split
    · exact ih _ _
    · rfl
  | exchange make next ih => exact ih _ _
  | done result => rfl

theorem begun_finish (s : Rehearsal.Stage) (id : RelayId) :
    (s.track (.finish id)).1.tracker.begun = s.tracker.begun := by
  unfold Rehearsal.Stage.track Tracker.step
  by_cases running : id ∈ s.tracker.running
  · simp only [running, if_true, Tracker.tell]
    split <;> rfl
  · simp [running]

theorem begun_perform (s : Rehearsal.Stage) (event : Event) :
    (s.perform (.relay event)).tracker.begun = s.tracker.begun + 1 := by
  show (Rehearsal.Stage.track (Rehearsal.Stage.carryOut _ _).1 _).1.tracker.begun = _
  rw [begun_finish, tracker_carryOut]

theorem play_request (s : Rehearsal.Stage) (request : Incoming) :
    s.play (.request request) = match s.app.handle s.fresh request with
      | (reply, some effect) => (s.perform effect, .reply reply)
      | (reply, none) => (s, .reply reply) := rfl

theorem answered_of_idle {s : Rehearsal.Stage} {request : Incoming} {reply : Reply}
    (handled : s.app.handle s.fresh request = (reply, none)) : Answered s request reply none := by
  have played : s.play (.request request) = (s, .reply reply) := by rw [play_request, handled]
  exact ⟨handled, congrArg (·.2) played, congrArg (·.1.tracker.begun) played,
    fun _ => congrArg (·.1) played⟩

theorem answered_of_relay {s : Rehearsal.Stage} {request : Incoming} {reply : Reply} {event : Event}
    (handled : s.app.handle s.fresh request = (reply, some (.relay event))) :
    Answered s request reply (some event) := by
  have played : s.play (.request request) = (s.perform (.relay event), .reply reply) := by
    rw [play_request, handled]
  exact ⟨handled, congrArg (·.2) played,
    (congrArg (·.1.tracker.begun) played).trans (begun_perform s event), nofun⟩

/-- A webhook is admitted for the last row of its bot that counts. Without such a row the answer is
    404, and 401 when the body does not carry the token the row asks for; only then does a handshake
    get its challenge back. None of them sets anything off. Every other body is answered with an
    empty object, and sets off one relay, of what the body conveys, if events of its type are
    relayed. -/
theorem webhook_answered {s : Rehearsal.Stage} {rows : List Bot} {production : Bool}
    (loaded : s.app.bots = .load rows production) {request : Incoming} {endpoint : Endpoint}
    {name : String} {body : Json} (arrives : Arrives request endpoint name body) :
    ((∀ bot, ¬ Stands rows production name bot) →
      Answered s request
        ⟨404, Refusal.coded "UNKNOWN_BOT" ("Unknown bot: " ++ name), []⟩ none) ∧
    ∀ bot, Stands rows production name bot →
      (¬ Authentic bot body →
        Answered s request
          ⟨401, Refusal.coded "INVALID_TOKEN" "Invalid verification token", []⟩ none) ∧
      (Authentic bot body →
        (∀ challenge, Handshake body challenge →
          Answered s request ⟨200, .json (.obj [("challenge", .str challenge)]), []⟩ none) ∧
        ((∀ challenge, ¬ Handshake body challenge) →
          ∃ eventType params, endpoint.Conveys body eventType params ∧
            (Registered eventType →
              Answered s request ⟨200, .json (.obj []), []⟩ (some ⟨eventType, name, params⟩)) ∧
            (¬ Registered eventType →
              Answered s request ⟨200, .json (.obj []), []⟩ none))) := by
  have handled := @App.handle_of_arrives s.app s.fresh _ _ _ _ arrives
  refine ⟨?_, ?_⟩
  · intro missing
    unfold App.accept at handled
    rw [loaded, Bots.get?_load_eq_none_iff.2 missing] at handled
    exact answered_of_idle handled
  · intro bot stands
    unfold App.accept at handled
    rw [loaded, Bots.get?_load_eq_some_iff.2 stands] at handled
    simp only [Endpoint.token_inbound] at handled
    refine ⟨?_, ?_⟩
    · intro denied
      have refused : bot.accepts (Inbound.tokenOf body) = false := by
        simpa [← accepts_iff] using denied
      rw [refused] at handled
      exact answered_of_idle handled
    · intro authentic
      rw [accepts_iff.2 authentic] at handled
      refine ⟨?_, ?_⟩
      · intro challenge handshake
        rw [endpoint.inbound_of_handshake handshake] at handled
        exact answered_of_idle handled
      · intro other
        obtain ⟨eventType, params, conveys, inbound⟩ := endpoint.inbound_of_not_handshake other
        rw [inbound] at handled
        refine ⟨eventType, params, conveys, ?_, ?_⟩
        · intro registered
          simp only [isForwardable_iff.2 registered] at handled
          exact answered_of_relay handled
        · intro unregistered
          have dropped : isForwardable eventType = false := by
            simpa [← isForwardable_iff] using unregistered
          simp only [dropped] at handled
          exact answered_of_idle handled

/-- Rows of one name, of which the second counts in production. -/
def rowsOfOneName : List Bot :=
  [⟨"a", "cli_1", some "old", "http", false⟩, ⟨"a", "cli_2", some "new", "http", false⟩,
    ⟨"a", "cli_3", none, "ws", false⟩, ⟨"a", "cli_4", none, "http", true⟩]

/-- A server in production over these rows. -/
def stageOfOneName : Rehearsal.Stage where
  app := ⟨"1.0", .load rowsOfOneName true, ∅⟩
  relay := ⟨.standard, "secret"⟩
  network := .unreachable
  fresh := ⟨"trace", "now"⟩
  bindings := .new (.ofSeconds 30) .empty
  tracker := .new .start
  seen := []

/-- An envelope whose event has a field of the same name as one of the header. -/
def envelopeRequest : Incoming where
  method := "POST"
  path := "/webhook/a/event"
  query := none
  headers := [("content-type", utf8 "application/json")]
  body := utf8 ("\x7b\"header\":\x7b\"event_type\":\"im.chat.updated_v1\",\"id\":\"h\","
    ++ "\"token\":\"new\"\x7d,\"event\":\x7b\"id\":\"e\"\x7d,\"token\":\"old\"\x7d")

def envelopeBody : Json :=
  .obj [("event", .obj [("id", .str "e")]),
    ("header", .obj [("event_type", .str "im.chat.updated_v1"), ("id", .str "h"),
      ("token", .str "new")]),
    ("token", .str "old")]

/-- The envelope carries the token of the row that counts, and is relayed with the field of its
    event. -/
theorem webhook_answered_envelope : ∃ params,
    Answered stageOfOneName envelopeRequest ⟨200, .json (.obj []), []⟩
      (some ⟨"im.chat.updated_v1", "a", params⟩) ∧
    params.get? "id" = some (.str "e") := by
  have named : parameter? "a" = some "a" := by
    rw [parameter?, Percent.decode_of_notMem (by decide), Utf8.text?_utf8]
  have arrives : Arrives envelopeRequest .event "a" envelopeBody := ⟨rfl, ⟨"a", rfl, named⟩, rfl⟩
  obtain ⟨-, found⟩ := @webhook_answered stageOfOneName rowsOfOneName true rfl _ _ _ _ arrives
  have stands : Stands rowsOfOneName true "a" ⟨"a", "cli_2", some "new", "http", false⟩ :=
    ⟨rfl, ⟨rfl, by decide⟩, [_], [_, _], rfl, by simp [Bot.Receives]⟩
  have authentic : Authentic ⟨"a", "cli_2", some "new", "http", false⟩ envelopeBody := by
    rintro token ⟨⟩ -
    rfl
  obtain ⟨-, answers⟩ := (found _ stands).2 authentic
  obtain ⟨eventType, params, conveys, relayed, -⟩ :=
    answers fun challenge handshake => nomatch handshake.1
  cases conveys with
  | event flattened announces =>
    cases flattened with
    | whole other => exact absurd rfl (other _ _ rfl)
    | envelope hasHeader hasEvent sorted union =>
      cases hasHeader
      cases hasEvent
      have named : (Json.obj _).get? "event_type" = some (.str "im.chat.updated_v1") :=
        union "event_type"
      cases announces with
      | unknown unnamed => exact absurd (unnamed _ named) (by decide)
      | named named' =>
        cases named.symm.trans named'
        exact ⟨_, relayed (.inr (by decide)), union "id"⟩

end Laneway.Server
