import Laneway.Json.Basic

set_option autoImplicit false

/-! # Bodies of webhooks

A webhook brings either a handshake, which is answered with its challenge, or a payload to relay.
An event in an envelope of header and event is made flat, the fields of the event over those of the
header; anything else is relayed as it came. Bodies are in canonical form. -/

namespace Laneway.Webhook

/-- The types of events that are relayed. -/
def registeredTypes : List String :=
  ["im.message.receive_v1", "im.message.recalled_v1", "im.chat.member.user.added_v1",
   "im.chat.member.user.deleted_v1", "im.chat.member.user.withdrawn_v1",
   "im.chat.member.bot.added_v1", "im.chat.member.bot.deleted_v1",
   "im.message.reaction.created_v1", "im.message.reaction.deleted_v1",
   "im.chat.access_event.bot_p2p_chat_entered_v1", "im.chat.updated_v1"]

/-- The type of every card action. -/
def cardActionType : String := "card.action.trigger"

/-- The type of an event that names none. -/
def unknownType : String := "unknown"

def isForwardable (eventType : String) : Bool :=
  eventType = cardActionType || registeredTypes.contains eventType

/-- What comes in. -/
inductive Inbound where
  | challenge (challenge : String) (token : Option String)
  | payload (eventType : String) (token : Option String) (params : Json)

namespace Inbound

/-- The challenge of a handshake. -/
def challengeOf (body : Json) : Option String :=
  if (body.get? "type").bind Json.str? = some "url_verification" then
    (body.get? "challenge").bind Json.str?
  else none

/-- The token of a body: that of the header if it has such a member, else that of the body. A token
    that is no text counts as missing. -/
def tokenOf (body : Json) : Option String :=
  match (body.get? "header").bind (Json.get? "token") with
  | some token => token.str?
  | none => (body.get? "token").bind Json.str?

/-- An envelope of two objects as one object, its other members left out. -/
def flatten (body : Json) : Json :=
  match body.get? "header", body.get? "event" with
  | some (.obj header), some (.obj event) => .obj (Json.sortMembers (header ++ event))
  | _, _ => body

/-- The type an event names. -/
def typeOf (params : Json) : String :=
  (((params.get? "event_type").bind Json.str?).filter (· ≠ "")).getD unknownType

/-- Reads the body of an event. -/
def ofEvent (body : Json) : Inbound :=
  match challengeOf body with
  | some text => .challenge text (tokenOf body)
  | none => .payload (typeOf (flatten body)) (tokenOf body) (flatten body)

/-- Reads the body of a card action, which is relayed as it came. -/
def ofCard (body : Json) : Inbound :=
  match challengeOf body with
  | some text => .challenge text (tokenOf body)
  | none => .payload cardActionType (tokenOf body) body

def token : Inbound → Option String
  | .challenge _ token => token
  | .payload _ token _ => token

/-- The token does not depend on what else a body holds. -/
theorem token_ofEvent (body : Json) : (ofEvent body).token = tokenOf body := by
  unfold ofEvent
  split <;> rfl

theorem token_ofCard (body : Json) : (ofCard body).token = tokenOf body := by
  unfold ofCard
  split <;> rfl

end Inbound

end Laneway.Webhook
