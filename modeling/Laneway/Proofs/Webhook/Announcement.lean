import Laneway.Proofs.Webhook.Admission

set_option autoImplicit false

/-! # Which type of event is announced

The header of an event announces its type, and where it does not the body may. But the type is read
after the event has been made flat, when the header's members lie under those of the event and the
other members of the body are gone, and a header without an event is not looked into at all. So there
are three ways for a type to be announced and not reported. -/

namespace Laneway.Webhook

/-! ## What a body announces -/

/-- The type that an object names: a text that is not empty. -/
def named? (fields : Json) : Option String :=
  ((fields.get? "event_type").bind Json.str?).filter (· ≠ "")

/-- The type that a body announces: the one that its header names, or else the one that it names
    itself. -/
def announced (body : Json) : String :=
  (((body.get? "header").bind named?).or (named? body)).getD "unknown"

/-- The body of an event announces a type that is not reported of it. -/
inductive Misread (body : Json) : Prop
  /-- The event has a member of its own for the type, and it does not say the same. -/
  | overruled {header event : List (String × Json)} {own : Json}
      (hasHeader : body.get? "header" = some (.obj header))
      (hasEvent : body.get? "event" = some (.obj event))
      (names : (Json.obj event).get? "event_type" = some own)
      (other : Inbound.typeOf (.obj event) ≠ announced body)
  /-- Neither the event nor its header names the type, which the body does. -/
  | dropped {header event : List (String × Json)} {eventType : String}
      (hasHeader : body.get? "header" = some (.obj header))
      (hasEvent : body.get? "event" = some (.obj event))
      (silent : (Json.obj event).get? "event_type" = none)
      (unnamed : named? (.obj header) = none) (names : named? body = some eventType)
      (other : eventType ≠ "unknown")
  /-- The header names the type, but header and event are not two objects. -/
  | overlooked {header : Json} {eventType : String}
      (alone : ∀ header event, body.get? "header" = some (.obj header) →
        body.get? "event" ≠ some (.obj event))
      (hasHeader : body.get? "header" = some header) (names : named? header = some eventType)
      (other : eventType ≠ Inbound.typeOf body)

theorem typeOf_eq (params : Json) : Inbound.typeOf params = (named? params).getD "unknown" := rfl

/-- Nothing but the member for the type counts. -/
theorem typeOf_congr {params fields : Json}
    (same : params.get? "event_type" = fields.get? "event_type") :
    Inbound.typeOf params = Inbound.typeOf fields := by
  rw [typeOf_eq, typeOf_eq, named?, same, named?]

/-! ## Reading in another order -/

section Fallback

variable {first second : Option String} {otherwise : String}

theorem getD_ne_getD_or_iff : first.getD otherwise ≠ (first.or second).getD otherwise ↔
    first = none ∧ ∃ found, second = some found ∧ found ≠ otherwise := by
  cases first with
  | none => cases second <;> simp [eq_comm]
  | some found => simp

theorem getD_ne_or_getD_iff : second.getD otherwise ≠ (first.or second).getD otherwise ↔
    ∃ found, first = some found ∧ found ≠ second.getD otherwise := by
  cases first <;> simp [eq_comm]

end Fallback

section Misread

variable {body : Json} {header event : List (String × Json)}

/-- What the event's own member says is reported, so it has to be what is announced. -/
theorem misread_iff_of_own {own : Json} (hasHeader : body.get? "header" = some (.obj header))
    (hasEvent : body.get? "event" = some (.obj event))
    (names : (Json.obj event).get? "event_type" = some own) :
    Misread body ↔ Inbound.typeOf (.obj event) ≠ announced body := by
  constructor
  · rintro (⟨-, hasEvent', -, other⟩ | ⟨-, hasEvent', silent, -, -, -⟩ | ⟨alone, -, -, -⟩)
    · cases hasEvent.symm.trans hasEvent'
      exact other
    · cases hasEvent.symm.trans hasEvent'
      exact nomatch names.symm.trans silent
    · exact absurd hasEvent (alone _ _ hasHeader)
  · exact .overruled hasHeader hasEvent names

/-- Without a member of the event the header's type is reported, and the body's is lost. -/
theorem misread_iff_of_silent (hasHeader : body.get? "header" = some (.obj header))
    (hasEvent : body.get? "event" = some (.obj event))
    (silent : (Json.obj event).get? "event_type" = none) :
    Misread body ↔ Inbound.typeOf (.obj header) ≠ announced body := by
  rw [announced, hasHeader, Option.bind_some, typeOf_eq, getD_ne_getD_or_iff]
  constructor
  · rintro (⟨-, hasEvent', names, -⟩ | ⟨hasHeader', -, -, unnamed, names, other⟩ | ⟨alone, -, -, -⟩)
    · cases hasEvent.symm.trans hasEvent'
      exact nomatch silent.symm.trans names
    · cases hasHeader.symm.trans hasHeader'
      exact ⟨unnamed, _, names, other⟩
    · exact absurd hasEvent (alone _ _ hasHeader)
  · rintro ⟨unnamed, eventType, names, other⟩
    exact .dropped hasHeader hasEvent silent unnamed names other

/-- Of a body that is no envelope its own type is reported, and the header's is passed over. -/
theorem misread_iff_of_alone
    (alone : ∀ header event, body.get? "header" = some (.obj header) →
      body.get? "event" ≠ some (.obj event)) :
    Misread body ↔ Inbound.typeOf body ≠ announced body := by
  rw [announced, typeOf_eq, getD_ne_or_getD_iff]
  constructor
  · rintro (⟨hasHeader, hasEvent, -, -⟩ | ⟨hasHeader, hasEvent, -, -, -, -⟩ |
      ⟨-, hasHeader, names, other⟩)
    · exact absurd hasEvent (alone _ _ hasHeader)
    · exact absurd hasEvent (alone _ _ hasHeader)
    · exact ⟨_, Option.bind_eq_some_iff.2 ⟨_, hasHeader, names⟩, other⟩
  · rintro ⟨eventType, found, other⟩
    obtain ⟨header, hasHeader, names⟩ := Option.bind_eq_some_iff.1 found
    exact .overlooked alone hasHeader names other

end Misread

/-! ## What is reported -/

/-- Of what is relayed the type is the announced one exactly if the body is not misread. -/
theorem typeOf_flatten_eq_iff (body : Json) :
    Inbound.typeOf (Inbound.flatten body) = announced body ↔ ¬ Misread body := by
  have flat := flattened_flatten body
  generalize Inbound.flatten body = params at flat ⊢
  cases flat with
  | @envelope header event fields hasHeader hasEvent _ union =>
    have reads := union "event_type"
    cases own : (Json.obj event).get? "event_type" with
    | some value =>
      have same : Inbound.typeOf (.obj fields) = Inbound.typeOf (.obj event) :=
        typeOf_congr (by rw [reads, own, Option.some_or])
      rw [misread_iff_of_own hasHeader hasEvent own, same]
      exact Decidable.not_not.symm
    | none =>
      have same : Inbound.typeOf (.obj fields) = Inbound.typeOf (.obj header) :=
        typeOf_congr (by rw [reads, own, Option.none_or])
      rw [misread_iff_of_silent hasHeader hasEvent own, same]
      exact Decidable.not_not.symm
  | whole alone =>
    rw [misread_iff_of_alone alone]
    exact Decidable.not_not.symm

/-- Of the body of an event, the type that it announces is reported exactly if it is not misread. -/
theorem reports_announced_iff {body : Json} (other : ∀ challenge, ¬ Handshake body challenge) :
    (∃ token params, Inbound.ofEvent body = .payload (announced body) token params) ↔
      ¬ Misread body := by
  rw [← typeOf_flatten_eq_iff, Inbound.ofEvent, challengeOf_eq_none_iff.2 other]
  constructor
  · rintro ⟨token, params, same⟩
    exact (Inbound.payload.inj same).1
  · intro same
    exact ⟨_, _, congrArg (Inbound.payload · _ _) same⟩

/-- An envelope whose header and event have these members. -/
def envelope (header event : List (String × Json)) : Json :=
  .obj [("event", .obj event), ("header", .obj header)]

/-- A message, the type of which stands in the header. -/
def received : Json :=
  envelope [("event_type", .str "im.message.receive_v1")] [("message", .obj [])]

theorem reports_announced_iff_received : (∀ challenge, ¬ Handshake received challenge) ∧
    ∃ token params, Inbound.ofEvent received = .payload "im.message.receive_v1" token params := by
  have other : ∀ challenge, ¬ Handshake received challenge := fun _ handshake =>
    nomatch handshake.1
  have clear : ¬ Misread received := fun misread =>
    (misread_iff_of_silent rfl rfl rfl).1 misread rfl
  exact ⟨other, (reports_announced_iff other).2 clear⟩

/-- What the header announces is not relayed, but the event has the type of something that is. -/
def crossed : Json :=
  envelope [("event_type", .str "im.message.message_read_v1")]
    [("event_type", .str "im.message.receive_v1")]

/-- A header that announces the type of a message, without an event. -/
def eventless : Json := .obj [("header", .obj [("event_type", .str "im.message.receive_v1")])]

/-- A body that announces the type of a message around an envelope that names none. -/
def wrapped : Json :=
  .obj [("event", .obj []), ("event_type", .str "im.message.receive_v1"), ("header", .obj [])]

/-- A type that the header does not announce is reported and relayed, and types that a header or a
    body does announce are not reported, so that messages are dropped. -/
theorem misreported :
    (announced crossed = "im.message.message_read_v1" ∧
      Inbound.ofEvent crossed = .payload "im.message.receive_v1" none
        (.obj [("event_type", .str "im.message.receive_v1")]) ∧
      isForwardable "im.message.receive_v1" ∧ ¬ isForwardable "im.message.message_read_v1") ∧
    (announced eventless = "im.message.receive_v1" ∧
      Inbound.ofEvent eventless = .payload "unknown" none eventless) ∧
    (announced wrapped = "im.message.receive_v1" ∧
      Inbound.ofEvent wrapped = .payload "unknown" none (.obj [])) :=
  ⟨⟨rfl, rfl, by decide, by decide⟩, ⟨rfl, rfl⟩, ⟨rfl, rfl⟩⟩

end Laneway.Webhook
