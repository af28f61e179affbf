set_option autoImplicit false

/-! # Bots that receive events

Bots are stored as rows. The ones that receive their events over HTTP are loaded once, without the
development bots when the process is in production; of several rows of one name the last one
counts. -/

namespace Laneway.Webhook

/-- A bot as it is stored. -/
structure Bot where
  name : String
  appId : String
  /-- The token its events have to carry; an empty one is not checked. -/
  token : Option String
  delivery : String
  isDev : Bool
deriving DecidableEq, Repr

namespace Bot

/-- How a bot with webhooks receives its events. -/
def httpDelivery : String := "http"

/-- The token that is checked. -/
def expectedToken (bot : Bot) : Option String := bot.token.filter (· ≠ "")

def accepts (bot : Bot) (token : Option String) : Bool :=
  match bot.expectedToken with
  | some expected => token = some expected
  | none => true

/-- Whether a bot gets webhooks. -/
def isSelected (production : Bool) (bot : Bot) : Bool :=
  bot.delivery = httpDelivery && (!production || !bot.isDev)

end Bot

/-- The bots that get webhooks, in the order of their rows. -/
def selectBots (rows : List Bot) (production : Bool) : List Bot :=
  rows.filter (Bot.isSelected production)

/-- The bots that events are accepted for. -/
structure Bots where
  /-- Their rows, possibly several of one name. -/
  rows : List Bot
deriving DecidableEq

namespace Bots

def load (rows : List Bot) (production : Bool) : Bots := ⟨selectBots rows production⟩

/-- The bot of a name, by its last row. -/
def get? (bots : Bots) (name : String) : Option Bot := bots.rows.findRev? fun bot => bot.name = name

/-- How many bots there are. -/
def size (bots : Bots) : Nat := (bots.rows.map (·.name)).eraseDups.length

/-- Whether there is none. -/
def isEmpty (bots : Bots) : Bool := bots.rows.isEmpty

end Bots

end Laneway.Webhook
