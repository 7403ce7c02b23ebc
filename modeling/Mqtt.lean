import Mqtt.Simulation.Bench
import Mqtt.Simulation.Scenario
import Mqtt.Proofs.Settlement
import Mqtt.Proofs.ExactlyOnce
import Mqtt.Proofs.Lifecycle
import Mqtt.Proofs.Awaiting
import Mqtt.Proofs.Acknowledgement
import Mqtt.Client.Activity
import Mqtt.Proofs.Activities
import Mqtt.Proofs.Reentry
import Mqtt.Proofs.InOrder
import Mqtt.Proofs.Network
import Mqtt.Proofs.Wire
import Mqtt.Client.Interleaving
import Mqtt.Proofs.Attempts
import Mqtt.Proofs.Superseded
import Mqtt.Client.Vigil
import Mqtt.Simulation.Errands
import Mqtt.Proofs.Likeness
import Mqtt.Proofs.Inert
import Mqtt.Proofs.Armed
import Mqtt.Proofs.Aftermath
import Mqtt.Proofs.Answers
import Mqtt.Proofs.ClosedLoop
import Mqtt.Proofs.Punctual
import Mqtt.Proofs.Veil
import Mqtt.Proofs.Secrecy
import Mqtt.Proofs.Withstand
import Mqtt.Proofs.Callers
import Mqtt.Proofs.Outbound
import Mqtt.Proofs.Equipped
import Mqtt.Proofs.Internal
import Mqtt.Proofs.LeftOver
import Mqtt.Proofs.Identity
import Mqtt.Proofs.WriteFailure
import Mqtt.Proofs.Refusals
import Mqtt.Proofs.FirstFit
import Mqtt.Proofs.Pings
import Mqtt.Proofs.Replies
import Mqtt.Proofs.Flows
import Mqtt.Proofs.Reuse
import Mqtt.Proofs.TopicGrammar
import Mqtt.Proofs.Widening
import Mqtt.Proofs.Disconnect
import Mqtt.Proofs.Abandonment
import Mqtt.Proofs.Routing
import Mqtt.Proofs.Encodable
import Mqtt.Proofs.Housekeeping
import Mqtt.Proofs.Staging
import Mqtt.Proofs.TaskTurns
import Mqtt.Proofs.Scenarios
