import Laneway.Binding.Store
import Laneway.Webhook.Bot

set_option autoImplicit false

/-! # What is read from the database

Two tables are read and never written: the lane bindings, one key at a time, and the bots, all at
once. Each has a query with its parameters and a reading of the rows that come back. -/

namespace Laneway.Database

/-- A query with its parameters. -/
structure Query where
  sql : String
  params : List String
deriving DecidableEq, Repr

/-- A value in a row. -/
inductive Cell where
  | null
  | text (s : String)
  | flag (b : Bool)
deriving DecidableEq, Repr

/-- The values of a row, column by column. -/
abbrev Row := List Cell

/-- The text of a column that must hold one. -/
def text : Cell → Except Binding.Fault String
  | .text s => .ok s
  | _ => .error .missingColumn

/-- The text of a column, or none. -/
def text? : Cell → Except Binding.Fault (Option String)
  | .null => .ok none
  | cell => (text cell).map some

/-- The truth value of a column that must hold one. -/
def flag : Cell → Except Binding.Fault Bool
  | .flag b => .ok b
  | _ => .error .missingColumn

/-! ## Lane bindings -/

def laneQuery (key : Binding.Key) : Query where
  sql := "SELECT lane_name FROM lane_routing "
    ++ "WHERE route_type = $1 AND route_key = $2 AND is_active = true LIMIT 1"
  params := [key.kind.name, key.name]

/-- The lane in the rows that came back. -/
def lane : List Row → Binding.Answer
  | [] => .ok none
  | (cell :: _) :: _ => (text cell).map some
  | [] :: _ => .error .missingColumn

/-! ## Bots -/

def botsQuery : Query where
  sql := "SELECT bot_name, app_id, verification_token, init_type, is_dev "
    ++ "FROM bot_config WHERE is_active = true"
  params := []

def bot : Row → Except Binding.Fault Webhook.Bot
  | [name, appId, token, delivery, isDev] => do
    return ⟨← text name, ← text appId, ← text? token, ← text delivery, ← flag isDev⟩
  | _ => .error .missingColumn

/-- The bots that get webhooks, from the rows that came back; one bad row spoils them all. -/
def bots (rows : List Row) (production : Bool) : Except Binding.Fault Webhook.Bots := do
  return .load (← rows.mapM bot) production

/-! ## Connecting -/

/-- Connecting to a database that cannot be reached. -/
def unreachable : String := "Failed to connect to PostgreSQL"

end Laneway.Database
