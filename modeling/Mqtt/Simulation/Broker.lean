import Mqtt.Error

/-!
# A scripted broker

The other end of a connection, as far as a client can see it: a broker that answers each packet it
is given by its kind, at once and with at most one packet, and grants whatever is asked. It can be
told to answer some kinds only, or to refuse connections with a code.
-/

namespace Mqtt

structure Broker where
  answers : List PacketKind := [.connect, .publish, .pubrel, .subscribe, .unsubscribe, .pingreq]
  /-- The code that connections are refused with, if they are. -/
  refusal : Option ConnectCode := none
  deriving DecidableEq

namespace Broker

def reply : Packet → Option Packet
  | .connect c => some (.connack ⟨!c.cleanSession, .accepted⟩)
  | .publish p =>
    match p.qos with
    | .atMostOnce => none
    | .atLeastOnce => some (.puback p.packetId)
    | .exactlyOnce => some (.pubrec p.packetId)
  | .pubrel id => some (.pubcomp id)
  | .subscribe s =>
    some (.suback ⟨s.packetId, s.subscriptions.map fun x => .granted x.qos⟩)
  | .unsubscribe u => some (.unsuback u.packetId)
  | .pingreq => some .pingresp
  | .connack _ | .puback _ | .pubrec _ | .pubcomp _ | .suback _ | .unsuback _ | .pingresp
  | .disconnect => none

/-- The answer of this broker to a packet; a refusal comes before everything else. -/
def answer (b : Broker) (p : Packet) : Option Packet :=
  match p.kind, b.refusal with
  | .connect, some code => some (.connack ⟨false, code⟩)
  | kind, _ => if b.answers.contains kind then reply p else none

end Broker

/-- The error of a write that was made to fail. -/
def Error.simulated : Error := .transport (.text "simulated write failure")

end Mqtt
