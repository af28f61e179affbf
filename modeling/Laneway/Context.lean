import Laneway.Http.Headers
import Laneway.Lane

set_option autoImplicit false

/-! # The context of a request

What a request carries from hop to hop stands in three headers: its lane, a trace id, and the name
of the calling application. `Context.ofHeaders` reads them when a request comes in, and
`Context.outbound` lists them for every request that is made on its behalf. -/

namespace Laneway

/-- What is passed on with every request made on behalf of one that came in. -/
structure Context where
  /-- The lane the request belongs to. -/
  lane : Option String
  /-- The identifier of the whole chain of requests. -/
  traceId : Option String
  /-- The calling application. -/
  appName : Option String
deriving DecidableEq, Repr

namespace Context

def laneHeader : String := "x-lane"

def traceHeader : String := "x-trace-id"

def appHeader : String := "x-app-name"

def empty : Context := ⟨none, none, none⟩

/-- The text of a header: the first value of its name, without blank space around it. A value that
    may not be read, or that is blank, counts as missing. -/
def field? (headers : Http.Headers) (name : String) : Option String := do
  let value ← headers.get? name
  let text ← Http.Headers.readable? value
  let trimmed := Http.Headers.trim text
  if trimmed = "" then none else some trimmed

/-- Reads the context of an incoming request. A lane header that names production means no lane,
    and a request without trace id is given the one in `fresh`. -/
def ofHeaders (fresh : String) (headers : Http.Headers) : Context where
  lane := (field? headers laneHeader).filter fun lane => Lane.isFeature (some lane)
  traceId := some ((field? headers traceHeader).getD fresh)
  appName := field? headers appHeader

/-- What a request made on behalf of this one carries, name by name. -/
def outbound (context : Context) : List (String × String) :=
  (context.lane.map fun lane => (laneHeader, lane)).toList
    ++ (context.traceId.map fun id => (traceHeader, id)).toList
    ++ (context.appName.map fun name => (appHeader, name)).toList

/-- What a request to an explicitly named lane carries: that lane alone. An empty name is none. -/
def carried (context : Context) (lane : Option String) : List (String × String) :=
  match lane.filter (· ≠ "") with
  | some lane => [(laneHeader, lane)]
  | none => context.outbound

/-- The headers of the pairs whose values may be sent; the others are left out. -/
def sendable (pairs : List (String × String)) : Http.Headers :=
  pairs.filterMap fun (name, text) => (Http.Headers.sendable? text).map fun value => (name, value)

def headers (context : Context) (lane : Option String) : Http.Headers :=
  sendable (context.carried lane)

end Context

end Laneway
