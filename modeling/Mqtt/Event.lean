import Mqtt.Error

/-!
# Events

What a session has to tell the application, in the order in which it happens. Ten events fall into
nine kinds: a connection attempt has one result, good or bad.
-/

namespace Mqtt

/-- An operation whose connection ended before it was acknowledged. -/
inductive Abandoned
  | publish (packet : Publish)
  | subscribe (packetId : UInt16)
  | unsubscribe (packetId : UInt16)
  deriving DecidableEq

def Abandoned.packetId : Abandoned → UInt16
  | publish packet => packet.packetId
  | subscribe packetId | unsubscribe packetId => packetId

inductive Event
  | connectionSuccess (packet : Connack)
  | connectionFailure (error : Error)
  | publishSent (packetId : UInt16)
  | publishComplete (packetId : UInt16)
  | publishReceived (packet : Publish)
  | subscribeComplete (packet : Suback)
  | unsubscribeComplete (packetId : UInt16)
  | pingResponse
  | connectionClosed
  | operationAbandoned (operation : Abandoned)
  deriving DecidableEq

inductive EventKind
  | connectResult
  | publishSent
  | publishComplete
  | publishReceived
  | subscribeComplete
  | unsubscribeComplete
  | pingResponse
  | connectionClosed
  | operationAbandoned
  deriving DecidableEq, Repr

def Event.kind : Event → EventKind
  | connectionSuccess _ | connectionFailure _ => .connectResult
  | publishSent _ => .publishSent
  | publishComplete _ => .publishComplete
  | publishReceived _ => .publishReceived
  | subscribeComplete _ => .subscribeComplete
  | unsubscribeComplete _ => .unsubscribeComplete
  | pingResponse => .pingResponse
  | connectionClosed => .connectionClosed
  | operationAbandoned _ => .operationAbandoned

namespace EventKind

def name : EventKind → String
  | connectResult => "ConnectResult"
  | publishSent => "PublishSent"
  | publishComplete => "PublishComplete"
  | publishReceived => "PublishReceived"
  | subscribeComplete => "SubscribeComplete"
  | unsubscribeComplete => "UnsubscribeComplete"
  | pingResponse => "PingResponse"
  | connectionClosed => "ConnectionClosed"
  | operationAbandoned => "OperationAbandoned"

def all : List EventKind :=
  [connectResult, publishSent, publishComplete, publishReceived, subscribeComplete,
    unsubscribeComplete, pingResponse, connectionClosed, operationAbandoned]

theorem mem_all (k : EventKind) : k ∈ all := by cases k <;> simp [all]

end EventKind

end Mqtt
