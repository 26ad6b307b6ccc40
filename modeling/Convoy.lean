import Convoy.Health
import Convoy.Initializer.Redacted
import Convoy.Main
import Convoy.Proofs.Dictionary
import Convoy.Proofs.Supervisor.Control
import Convoy.Proofs.Supervisor.Founded
import Convoy.Scenario.Script
import Convoy.Scenario.Store
import Convoy.Proofs.Supervisor.Invariant
import Convoy.Proofs.Supervisor.Requests
import Convoy.Proofs.Supervisor.Gating
import Convoy.Proofs.Supervisor.Order
import Convoy.Proofs.Supervisor.Shutdown
import Convoy.Proofs.Supervisor.Restart
import Convoy.Proofs.Supervisor.Containment
import Convoy.Proofs.Supervisor.Roster
import Convoy.Proofs.Supervisor.Traffic
import Convoy.Proofs.Supervisor.Stops
import Convoy.Proofs.Supervisor.Delivery
import Convoy.Proofs.Supervisor.Isolation
import Convoy.Proofs.Supervisor.Mailbox
import Convoy.Proofs.Supervisor.Pacing
import Convoy.Proofs.Supervisor.Progress
import Convoy.Proofs.Compose.Secrets
import Convoy.Proofs.Compose.Entrypoint
import Convoy.Proofs.Compose.Dependencies
import Convoy.Proofs.Compose.Closure
import Convoy.Proofs.Supervisor.Provision
import Convoy.Proofs.Initializer.Store
import Convoy.Proofs.Initializer.Convergence
import Convoy.Proofs.Initializer.Guarded
import Convoy.Proofs.Advertised
import Convoy.Proofs.Compose.Confidentiality
import Convoy.Proofs.Compose.Ports
import Convoy.Proofs.Health.Tracking
import Convoy.Proofs.Health.Actions
import Convoy.Proofs.Plan
import Convoy.Proofs.Gate.Opening
import Convoy.Proofs.Gate.Cancellation
import Convoy.Proofs.Files
import Convoy.Proofs.Resolution
import Convoy.Proofs.Plan.Gates
import Convoy.Proofs.Compose.Literals
import Convoy.Proofs.Compose.Healthchecks
import Convoy.Proofs.Compose.Mounts
import Convoy.Proofs.Initializer.Disclosure
import Convoy.Proofs.Limits
import Convoy.Proofs.Routing.Calls
