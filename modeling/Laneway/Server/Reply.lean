import Laneway.Json.Printer

set_option autoImplicit false

/-! # Replies of the server

A request is refused for one cause, and each cause has its own status and wording. What is not
refused is answered with JSON or with nothing. -/

namespace Laneway.Server

/-- The body of a reply. -/
inductive Body where
  | empty
  | text (s : String)
  | json (value : Json)

structure Reply where
  status : Nat
  body : Body
  /-- The methods that are allowed, when another one was refused. -/
  allow : List String

/-- A reply of JSON. -/
def Reply.ok (value : Json) : Reply := ⟨200, .json value, []⟩

/-- A reply that has nothing to say. -/
def Reply.done : Reply := ⟨204, .empty, []⟩

def Reply.head (reply : Reply) : Reply := { reply with body := .empty }

inductive Refusal where
  | noRoute
  /-- The route does not answer to this method. -/
  | method (allowed : List String)
  /-- A parameter of the path is no text, or not one of the names it can be. -/
  | path
  /-- A parameter of the query stands twice. -/
  | query
  /-- The body is not announced as JSON. -/
  | mediaType
  /-- The body is too long. -/
  | tooLong
  /-- The body is no JSON. -/
  | syntaxFault
  | unknownBot (name : String)
  /-- The token is not that of the bot. -/
  | invalidToken
deriving DecidableEq, Repr

namespace Refusal

/-- A refusal as JSON: a code for programs and a sentence for people. -/
def coded (code message : String) : Body :=
  .json (.obj [("error", .str code), ("message", .str message)])

/-- The reply that tells of a refusal. -/
def reply : Refusal → Reply
  | .noRoute => ⟨404, .empty, []⟩
  | .method allowed => ⟨405, .empty, allowed⟩
  | .path => ⟨400, .text "Invalid URL", []⟩
  | .query => ⟨400, .text "Failed to deserialize query string", []⟩
  | .mediaType => ⟨415, .text "Expected request with \x60Content-Type: application/json\x60", []⟩
  | .tooLong => ⟨413, .text "Failed to buffer the request body", []⟩
  | .syntaxFault => ⟨400, .text "Failed to parse the request body as JSON", []⟩
  | .unknownBot name => ⟨404, coded "UNKNOWN_BOT" ("Unknown bot: " ++ name), []⟩
  | .invalidToken => ⟨401, coded "INVALID_TOKEN" "Invalid verification token", []⟩

end Refusal

end Laneway.Server
