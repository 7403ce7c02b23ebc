import Mqtt.Packet.Text
import Mqtt.Status
import Mqtt.Topic

/-!
# Errors

An error is its cause. `message` is the sentence shown for it, `detail?` the further explanation
that some causes carry, and `spelled` its full structural form.
-/

namespace Mqtt

/-- What lies behind an error: a plain text, or a failure of the platform, with its kind. -/
inductive Detail
  | text (content : String)
  | platform (kind content : String)
  deriving DecidableEq

namespace Detail

def content : Detail → String
  | text content => content
  | platform _ content => content

def spelled : Detail → String
  | text content => Text.quoted content
  | platform kind content =>
    Text.spellRecord "Custom" [("kind", kind), ("error", Text.quoted content)]

end Detail

inductive Error
  | transport (detail : Detail)
  | connectionRefused (code : ConnectCode)
  | invalidTopic (topic : String) (fault : Topic.Fault)
  | identifierExhaustion
  | invalidState (status : Status) (detail : Detail)
  | packetValidation (kind : PacketKind) (detail : Detail)
  | decodingFailure (detail : Detail)
  | connectionClosed (detail : Detail)
  | internalState (detail : Detail)
  deriving DecidableEq

namespace Error

def name : Error → String
  | transport _ => "TransportError"
  | connectionRefused _ => "ConnectionRefused"
  | invalidTopic _ _ => "InvalidTopic"
  | identifierExhaustion => "IdentifierExhaustion"
  | invalidState _ _ => "InvalidState"
  | packetValidation _ _ => "PacketValidation"
  | decodingFailure _ => "DecodingFailure"
  | connectionClosed _ => "ConnectionClosed"
  | internalState _ => "InternalStateError"

def message : Error → String
  | transport _ => "transport error; source contains further details"
  | connectionRefused code => "server refused the connection with return code " ++ code.text
  | invalidTopic topic fault =>
    "invalid topic " ++ Text.lineText topic ++ ": " ++ fault.message
  | identifierExhaustion => "packet id space exhausted; all 65535 identifiers are outstanding"
  | invalidState status _ => "operation not allowed while the connection is " ++ status.name
  | packetValidation kind _ =>
    kind.packetName ++ " failed validation; source contains further details"
  | decodingFailure _ => "failed to decode a packet value; source contains further details"
  | connectionClosed _ => "client connection was closed; source contains further details"
  | internalState _ => "client reached an invalid internal state; almost certainly a client bug"

def detail? : Error → Option String
  | invalidTopic _ fault => some fault.message
  | connectionRefused _ | identifierExhaustion => none
  | transport detail | invalidState _ detail | packetValidation _ detail
  | decodingFailure detail | connectionClosed detail | internalState detail => some detail.content

def fields : Error → List (String × String)
  | connectionRefused code => [("return_code", code.spelled)]
  | invalidTopic topic fault => [("topic", Text.quoted topic), ("reason", fault.name)]
  | identifierExhaustion => []
  | invalidState status detail => [("state", status.name), ("source", detail.spelled)]
  | packetValidation kind detail => [("packet_type", kind.name), ("source", detail.spelled)]
  | transport detail | decodingFailure detail | connectionClosed detail
  | internalState detail => [("source", detail.spelled)]

def spelled (e : Error) : String :=
  let context := e.name ++ "Context"
  Text.spellWrapped e.name (match e.fields with
    | [] => context
    | fields => Text.spellRecord context fields)

/-! ### The causes that arise in the client itself -/

def connectNotAllowed (s : Status) : Error :=
  invalidState s (.text "connect is only allowed while disconnected")

def notConnected (s : Status) : Error :=
  invalidState s (.text "operation requires an established connection")

def nothingToDisconnect (s : Status) : Error :=
  invalidState s (.text "disconnect requires a connection or connection attempt")

def attemptCancelled (s : Status) : Error :=
  invalidState s (.text "connection attempt was cancelled")

def noTransport : Error := internalState (.text "packet write attempted without a transport")

def noPacketId : Error := internalState (.text "operation completed without a packet id")

def closedBeforeAccepted : Error :=
  connectionClosed (.text "transport closed before the connection was accepted")

def cancelledByDisconnect : Error :=
  connectionClosed (.text "connection attempt cancelled by disconnect")

def emptyHost : Error := packetValidation .connect (.text "host must not be empty")

end Error

end Mqtt
