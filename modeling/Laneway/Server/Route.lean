import Laneway.Text.Percent

set_option autoImplicit false

/-! # Which path leads where

A route is chosen by the path alone, segment by segment, and each route answers to methods of its
own. A segment that is a parameter may hold anything, and may be empty unless it is the last; what
it stands for is percent decoded only after the route is chosen. -/

namespace Laneway.Server

inductive Route where
  /-- Tells that the server is alive. -/
  | health
  /-- Shows the table of services. -/
  | services
  /-- Shows how a service is resolved. -/
  | service (name : String)
  /-- Drops every cached binding. -/
  | lanes
  /-- Drops the cached binding of a kind and a key. -/
  | lane (kind key : String)
  | event (bot : String)
  | card (bot : String)
deriving DecidableEq, Repr

namespace Route

def ofSegments : List String → Option Route
  | ["api", "health"] => some .health
  | ["api", "internal", "routes"] => some .services
  | ["api", "internal", "routes", name] => if name = "" then none else some (.service name)
  | ["api", "internal", "lanes"] => some .lanes
  | ["api", "internal", "lanes", kind, key] => if key = "" then none else some (.lane kind key)
  | ["webhook", bot, "event"] => some (.event bot)
  | ["webhook", bot, "card"] => some (.card bot)
  | _ => none

def ofPath (path : String) : Option Route :=
  match path.toList.splitOn '/' with
  | [] :: segments => ofSegments (segments.map String.ofList)
  | _ => none

/-- The methods a route answers to. Whatever can be fetched can be asked for its head alone. -/
def methods : Route → List String
  | .health => ["GET", "HEAD"]
  | .services => ["GET", "HEAD"]
  | .service _ => ["GET", "HEAD"]
  | .lanes => ["DELETE"]
  | .lane _ _ => ["DELETE"]
  | .event _ => ["POST"]
  | .card _ => ["POST"]

end Route

/-- The text a parameter stands for, unless its bytes are no text. -/
def parameter? (written : String) : Option String := Utf8.text? (Percent.decode (utf8 written))

end Laneway.Server
