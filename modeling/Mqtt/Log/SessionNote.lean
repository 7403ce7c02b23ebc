import Mqtt.Error
import Mqtt.Log.Level

/-!
# What a session notes

Each constructor is one thing that a session may write to its log while it handles an operation;
`level` says how urgent it is and `message` how it reads.
-/

namespace Mqtt

inductive SessionNote
  | connectNotAllowed (status : Status)
  | clientIdGenerated (clientId : String)
  | statusChanged (before after : Status)
  | attemptSuperseded (attempt : Nat)
  | staleReport (attempt : Nat)
  | reportHandled (result : Except Error Unit)
  | requestHandled (result : Except Error (Option UInt16))
  | serviceFailed (error : Error)
  | nextService (status : Status) (elapsedMs : Option Nat)
  | notConnected (request : String) (status : Status)
  | nothingToDisconnect (status : Status)
  | noTransport (kind : PacketKind)
  | writeFailed (kind : PacketKind) (error : Error)
  | closingTransport (attempt : Nat)
  | abandoning (count : Nat)
  | openedTooLate
  | opened
  | failedTooLate
  | failed (error : Error)
  | closedTooLate
  | closed (status : Status)
  | pingDue
  | disconnectNotWritten (error : Error)
  | neverFromServer (kind : PacketKind)
  | outOfPlace (kind : PacketKind) (status : Status)
  | connackOutOfPlace (status : Status)
  | processing (kind : PacketKind)
  | accepted (sessionPresent : Bool)
  | refused (code : ConnectCode)
  | heldAlready (packetId : UInt16)
  | nothingPending (kind : PacketKind) (packetId : UInt16)

/-- How urgent the outcome of an operation is. -/
def Level.ofResult {α : Type} : Except Error α → Level
  | .ok _ => .debug
  | .error _ => .error

/-- What an acknowledgement or release of each kind looks for among the operations in flight. -/
def PacketKind.counterpart : PacketKind → String
  | puback => "pending QoS 1 publish"
  | pubrec => "pending QoS 2 publish"
  | pubrel => "unreleased QoS 2 publish"
  | pubcomp => "released QoS 2 publish"
  | suback => "pending subscribe"
  | unsuback => "pending unsubscribe"
  | kind => kind.name

/-- The name that log lines give to the handling of a received packet. -/
def PacketKind.handling (k : PacketKind) : String := "handle_" ++ k.name.toLower

namespace SessionNote

def level : SessionNote → Level
  | connectNotAllowed _ | serviceFailed _ | notConnected _ _ | nothingToDisconnect _
  | noTransport _ | writeFailed _ _ | failed _ | refused _ => .error
  | attemptSuperseded _ | openedTooLate | disconnectNotWritten _ | neverFromServer _
  | outOfPlace _ _ | connackOutOfPlace _ => .warn
  | clientIdGenerated _ | abandoning _ | opened | closed _ | processing _ | accepted _ => .info
  | reportHandled result => Level.ofResult result
  | requestHandled result => Level.ofResult result
  | statusChanged _ _ | staleReport _ | nextService _ _ | closingTransport _ | failedTooLate
  | closedTooLate | pingDue | heldAlready _ | nothingPending _ _ => .debug

def spellUnit (_ : Unit) : String := "()"

def spellId (id : Option UInt16) : String := Text.spellOption (id.map toString)

def message : SessionNote → String
  | connectNotAllowed status =>
    "start_connect - invalid state " ++ status.name ++ " to begin a connection attempt"
  | clientIdGenerated clientId =>
    "start_connect - generated client id " ++ Text.lineText clientId
  | statusChanged before after =>
    "change_state - transitioning from " ++ before.name ++ " to " ++ after.name
  | attemptSuperseded attempt =>
    "handle_network_event - connection attempt " ++ toString attempt ++
      " was superseded, closing its transport"
  | staleReport attempt =>
    "handle_network_event - ignoring event from stale connection " ++ toString attempt
  | reportHandled result =>
    "handle_network_event - final result: " ++ Text.spellResult Error.spelled spellUnit result
  | requestHandled result =>
    "handle_user_event - final result: " ++ Text.spellResult Error.spelled spellId result
  | serviceFailed error =>
    "service - final result: " ++ Text.spellWrapped "Err" error.spelled
  | nextService status elapsedMs =>
    "get_next_service_timepoint - state " ++ status.name ++ ", target_elapsed_time: " ++
      match elapsedMs with
      | none => "NEVER"
      | some ms => toString ms ++ " ms"
  | notConnected request status =>
    "handle_user_event_" ++ request ++ " - invalid state " ++ status.name ++ " for operation"
  | nothingToDisconnect status =>
    "handle_user_event_disconnect - invalid state " ++ status.name ++ " for disconnect"
  | noTransport kind => "write_packet - no transport to write " ++ kind.packetName ++ " to"
  | writeFailed kind error =>
    "send_packet - failed to write " ++ kind.packetName ++ ": " ++ error.message
  | closingTransport attempt => "close_transport - closing connection " ++ toString attempt
  | abandoning count =>
    "abandon_pending_operations - abandoning " ++ toString count ++ " unacknowledged operations"
  | openedTooLate =>
    "handle_network_event_connection_opened - connection attempt was cancelled, closing transport"
  | opened =>
    "handle_network_event_connection_opened - transport established, sending CONNECT"
  | failedTooLate =>
    "handle_network_event_connection_failed - connection attempt already cancelled"
  | failed error =>
    "handle_network_event_connection_failed - transport could not be established: " ++
      error.message
  | closedTooLate => "handle_network_event_connection_closed - already disconnected"
  | closed status =>
    "handle_network_event_connection_closed - transport closed in state " ++ status.name
  | pingDue => "service_keep_alive - next ping time reached, sending ping"
  | disconnectNotWritten error =>
    "handle_user_event_disconnect - failed to write DISCONNECT: " ++ error.message
  | neverFromServer kind =>
    "handle_packet - ignoring " ++ kind.packetName ++ ", which a server never sends"
  | outOfPlace kind status =>
    "handle_packet - ignoring " ++ kind.packetName ++ " received in state " ++ status.name
  | connackOutOfPlace status =>
    "handle_connack - ignoring CONNACK received in state " ++ status.name
  | processing kind => kind.handling ++ " - processing " ++ kind.name.toUpper ++ " packet"
  | accepted sessionPresent =>
    "handle_connack - connection accepted, session present: " ++ Text.spellBool sessionPresent
  | refused code => "handle_connack - connection refused with return code " ++ code.text
  | heldAlready packetId =>
    "handle_publish - duplicate delivery of unreleased QoS 2 publish " ++ toString packetId
  | nothingPending kind packetId =>
    kind.handling ++ " - no " ++ kind.counterpart ++ " for packet id " ++ toString packetId

end SessionNote

end Mqtt
