import Mqtt.Event
import Mqtt.Log.Level

/-!
# What a client notes

The things that a client writes to its log around its session: requests of the application, the
handing over of events, and the life of each connection's tasks.
-/

namespace Mqtt

inductive ClientNote
  | emptyHost
  | created (host : String) (port : UInt16)
  | disconnectRequested
  | publishSubmitted (topic : String)
  | subscribeSubmitted
  | unsubscribeSubmitted
  | dispatching (kind : EventKind)
  | handlerPanicked (kind : EventKind)
  | dialing (attempt : Nat) (host : String) (port : UInt16)
  | dialed (attempt : Nat)
  | dialFailed (attempt : Nat) (error : Error)
  | deliveryLoop
  | deliveryOutdated (attempt : Nat)
  | packetDelivered (attempt : Nat)
  | channelClosed (attempt : Nat)
  | servicing
  | deliveryFinished (attempt : Nat)
  deriving DecidableEq

namespace ClientNote

def level : ClientNote → Level
  | emptyHost | handlerPanicked _ => .error
  | created _ _ | disconnectRequested | dialing _ _ _ | dialFailed _ _ | channelClosed _
  | deliveryFinished _ => .info
  | publishSubmitted _ | subscribeSubmitted | unsubscribeSubmitted | dispatching _ | dialed _
  | deliveryOutdated _ | packetDelivered _ | servicing => .debug
  | deliveryLoop => .trace

def endpoint (host : String) (port : UInt16) : String := host ++ ":" ++ toString port

def message : ClientNote → String
  | emptyHost => "ClientBuilder::build - empty host"
  | created host port =>
    "ClientBuilder::build - client for " ++ endpoint host port ++ " created"
  | disconnectRequested => "disconnect - user requested disconnect"
  | publishSubmitted topic => "publish - user submitting publish to " ++ Text.lineText topic
  | subscribeSubmitted => "subscribe - user submitting subscribe"
  | unsubscribeSubmitted => "unsubscribe - user submitting unsubscribe"
  | dispatching kind => "dispatch - " ++ kind.name
  | handlerPanicked kind => "dispatch_pending_events - " ++ kind.name ++ " handler panicked"
  | dialing attempt host port =>
    "tokio - connect - establishing connection " ++ toString attempt ++ " to " ++
      endpoint host port
  | dialed attempt => "tokio - connect - connection " ++ toString attempt ++ " established"
  | dialFailed attempt error =>
    "tokio - connect - connection " ++ toString attempt ++ " failed: " ++ error.message
  | deliveryLoop => "tokio - process_connection loop"
  | deliveryOutdated attempt =>
    "tokio - process_connection - connection " ++ toString attempt ++ " is no longer current"
  | packetDelivered attempt =>
    "tokio - process_connection - packet received on connection " ++ toString attempt
  | channelClosed attempt =>
    "tokio - process_connection - connection " ++ toString attempt ++ " closed"
  | servicing => "tokio - process_connection - running service task"
  | deliveryFinished attempt =>
    "tokio - process_connection - finished with connection " ++ toString attempt

end ClientNote

end Mqtt
