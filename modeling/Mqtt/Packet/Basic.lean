import Mqtt.ReturnCode

/-!
# Control packets

The fourteen control packets of MQTT 3.1.1 as values. How they become bytes is not this library's
business; what a field may hold on the wire is said where requests are checked.
-/

namespace Mqtt

-- Payloads are compared as the core library does, whatever else is imported.
instance (priority := high) decidableEqPayload : DecidableEq ByteArray := ByteArray.instDecidableEq

/-- The message that the server publishes for a client it lost. -/
structure Will where
  topic : String
  payload : ByteArray
  qos : Qos
  retain : Bool
  deriving DecidableEq

structure Connect where
  cleanSession : Bool
  keepAlive : UInt16
  clientId : String
  will : Option Will
  username : Option String
  password : Option ByteArray
  deriving DecidableEq

structure Connack where
  sessionPresent : Bool
  returnCode : ConnectCode
  deriving DecidableEq

structure Publish where
  packetId : UInt16
  topic : String
  qos : Qos
  duplicate : Bool
  retain : Bool
  payload : ByteArray
  deriving DecidableEq

structure Subscription where
  filter : String
  qos : Qos
  deriving DecidableEq

structure Subscribe where
  packetId : UInt16
  subscriptions : List Subscription
  deriving DecidableEq

structure Suback where
  packetId : UInt16
  returnCodes : List SubackCode
  deriving DecidableEq

structure Unsubscribe where
  packetId : UInt16
  filters : List String
  deriving DecidableEq

inductive Packet
  | connect (packet : Connect)
  | connack (packet : Connack)
  | publish (packet : Publish)
  | puback (packetId : UInt16)
  | pubrec (packetId : UInt16)
  | pubrel (packetId : UInt16)
  | pubcomp (packetId : UInt16)
  | subscribe (packet : Subscribe)
  | suback (packet : Suback)
  | unsubscribe (packet : Unsubscribe)
  | unsuback (packetId : UInt16)
  | pingreq
  | pingresp
  | disconnect
  deriving DecidableEq

inductive PacketKind
  | connect
  | connack
  | publish
  | puback
  | pubrec
  | pubrel
  | pubcomp
  | subscribe
  | suback
  | unsubscribe
  | unsuback
  | pingreq
  | pingresp
  | disconnect
  deriving DecidableEq, Repr

def Packet.kind : Packet → PacketKind
  | .connect _ => .connect
  | .connack _ => .connack
  | .publish _ => .publish
  | .puback _ => .puback
  | .pubrec _ => .pubrec
  | .pubrel _ => .pubrel
  | .pubcomp _ => .pubcomp
  | .subscribe _ => .subscribe
  | .suback _ => .suback
  | .unsubscribe _ => .unsubscribe
  | .unsuback _ => .unsuback
  | .pingreq => .pingreq
  | .pingresp => .pingresp
  | .disconnect => .disconnect

namespace PacketKind

def name : PacketKind → String
  | connect => "Connect"
  | connack => "Connack"
  | publish => "Publish"
  | puback => "Puback"
  | pubrec => "Pubrec"
  | pubrel => "Pubrel"
  | pubcomp => "Pubcomp"
  | subscribe => "Subscribe"
  | suback => "Suback"
  | unsubscribe => "Unsubscribe"
  | unsuback => "Unsuback"
  | pingreq => "Pingreq"
  | pingresp => "Pingresp"
  | disconnect => "Disconnect"

/-- The name of the packet itself, such as `ConnectPacket`. -/
def packetName (k : PacketKind) : String := k.name ++ "Packet"

end PacketKind

namespace Connect

/-- The protocol's name, the same in every CONNECT. -/
def protocolName : String := "MQTT"

/-- The protocol's level, which tells version 3.1.1 from the others. -/
def protocolLevel : UInt8 := 4

def flag (bit : UInt8) (on : Bool) : UInt8 := if on then bit else 0

/-- The bits of the flags byte that speak of the will: its presence, its level and its retention. -/
def willFlags : Option Will → UInt8
  | none => 0
  | some will => (0x04 : UInt8) ||| will.qos.toByte <<< 3 ||| flag 0x20 will.retain

/-- The byte that tells which fields follow in an encoded CONNECT, and how the will is delivered. -/
def flags (c : Connect) : UInt8 :=
  flag 0x02 c.cleanSession ||| willFlags c.will ||| flag 0x40 c.password.isSome |||
    flag 0x80 c.username.isSome

end Connect

def Suback.granted (s : Suback) : List (Option Qos) := s.returnCodes.map SubackCode.granted?

end Mqtt
