import Laneway.Broker.Rehearsal
import Laneway.Broker.Wire
import Laneway.Config
import Laneway.Database
import Laneway.Routing.Rehearsal
import Laneway.RouteType
import Laneway.Server.Rehearsal
import Laneway.Proofs.History
import Laneway.Proofs.Broker.Run
import Laneway.Proofs.Broker.Transition
import Laneway.Proofs.Broker.Link
import Laneway.Proofs.Broker.Loss
import Laneway.Proofs.Binding.Invalidation
import Laneway.Proofs.Binding.Record
import Laneway.Proofs.Binding.Refinement
import Laneway.Proofs.Binding.Rehearsed
import Laneway.Proofs.Binding.Staleness
import Laneway.Proofs.Broker.Delivery
import Laneway.Proofs.Broker.Handling
import Laneway.Proofs.Broker.Settlement
import Laneway.Proofs.Broker.Session
import Laneway.Proofs.Broker.Restoration
import Laneway.Proofs.Broker.Exclusion
import Laneway.Proofs.Broker.Queue
import Laneway.Proofs.Broker.Closing
import Laneway.Proofs.Broker.Failure
import Laneway.Proofs.Broker.Consumers
import Laneway.Proofs.Broker.Names
import Laneway.Proofs.Broker.Isolation
import Laneway.Proofs.Broker.Declarations
import Laneway.Proofs.Broker.Declaring
import Laneway.Proofs.Broker.Delay
import Laneway.Proofs.Broker.Fields
import Laneway.Proofs.Broker.Outage
import Laneway.Proofs.Broker.Pacing
import Laneway.Proofs.Broker.Status
import Laneway.Proofs.Routing.Replacement
import Laneway.Proofs.Routing.Payload
import Laneway.Proofs.Routing.NextHop
import Laneway.Proofs.Routing.Hops
import Laneway.Proofs.Routing.Misreading
import Laneway.Proofs.Routing.Order
import Laneway.Proofs.Routing.Precedence
import Laneway.Proofs.Routing.Resolution
import Laneway.Proofs.Routing.Stopping
import Laneway.Proofs.Webhook.Admission
import Laneway.Proofs.Webhook.Announcement
import Laneway.Proofs.Webhook.Course
import Laneway.Proofs.Webhook.Forwarding
import Laneway.Proofs.Webhook.Draining
import Laneway.Proofs.Webhook.Rehearsed
import Laneway.Proofs.Webhook.Relaying
import Laneway.Proofs.Webhook.Shutdown
import Laneway.Proofs.Configuration
import Laneway.Proofs.Deadlines
