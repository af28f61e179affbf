set_option autoImplicit false

/-! # Faults of broker operations -/

namespace Laneway.Broker

/-- Why a broker operation failed. -/
inductive Fault where
  | notConfigured
  /-- No session has been opened yet, or the client was closed. -/
  | notConnected
  /-- The connection was lost and is being restored. -/
  | disconnected
  /-- The delivery of this tag has been settled before. -/
  | alreadySettled (tag : Nat)
  /-- The broker or the connection to it refused. -/
  | transport (reason : String)
  /-- The body of a message has no JSON form. -/
  | serialization (reason : String)
deriving DecidableEq, Repr

namespace Fault

def message : Fault → String
  | .notConfigured => "RABBITMQ_URL is not configured"
  | .notConnected => "Broker channel not available; call connect() first"
  | .disconnected => "Broker connection lost; reconnect pending"
  | .alreadySettled tag => "Delivery " ++ toString tag ++ " already settled"
  | .transport reason => "Broker transport error: " ++ reason
  | .serialization reason => "Failed to encode message body: " ++ reason

/-- Whether the fault is expected to clear once the connection is back. -/
def isTransient : Fault → Bool
  | .disconnected | .transport _ => true
  | _ => false

end Fault

end Laneway.Broker
