import Mqtt.Session.Basic

/-!
# Received packets

What a session does with each packet from the server. Nothing that a server sends is an error: a
packet that is out of place, or acknowledges nothing, is noted and passed over. Only the write of an
answer can fail.
-/

namespace Mqtt.Turn

/-- A step that the connection must be accepted for; otherwise the packet is passed over. -/
def whileConnected (t : Turn) (kind : PacketKind) (next : Turn → Reply Unit) : Reply Unit :=
  let t := t.note (.processing kind)
  if t.session.status = .connected then next t
  else (t.note (.outOfPlace kind t.session.status)).done

def onConnack (t : Turn) (connack : Connack) : Turn :=
  let t := t.note (.processing .connack)
  if t.session.status ≠ .connecting then t.note (.connackOutOfPlace t.session.status)
  else if connack.returnCode.isAccepted then
    ((t.note (.accepted connack.sessionPresent)).setStatus .connected).emit
      (.connectionSuccess connack)
  else
    ((((t.note (.refused connack.returnCode)).closeTransport).setStatus .disconnected
      ).resetKeepAlive).emit (.connectionFailure (.connectionRefused connack.returnCode))

def holdMessage (t : Turn) (publish : Publish) : Turn :=
  match t.session.inflight.hold publish with
  | some inflight => t.setInflight inflight
  | none => t.note (.heldAlready publish.packetId)

/-- A message is delivered at once, after its acknowledgement, or at its release, by its level. -/
def onPublish (t : Turn) (publish : Publish) : Reply Unit :=
  match publish.qos with
  | .atMostOnce => (t.emit (.publishReceived publish)).done
  | .atLeastOnce =>
    (t.send (.puback publish.packetId)).andThen fun _ t =>
      (t.emit (.publishReceived publish)).done
  | .exactlyOnce => (t.holdMessage publish).send (.pubrec publish.packetId)

/-- Takes in an acknowledgement that completes an operation and frees its identifier. -/
def complete (t : Turn) (kind : PacketKind) (id : UInt16) (after : Option Inflight)
    (event : Event) : Turn :=
  match after with
  | some inflight => ((t.setInflight inflight).release id).emit event
  | none => t.note (.nothingPending kind id)

def onPubrec (t : Turn) (id : UInt16) : Reply Unit :=
  match t.session.inflight.onPubrec id with
  | some inflight => (t.setInflight inflight).send (.pubrel id)
  | none => (t.note (.nothingPending .pubrec id)).done

def deliverHeld (t : Turn) (id : UInt16) : Turn :=
  match t.session.inflight.unhold id with
  | some (publish, inflight) => (t.setInflight inflight).emit (.publishReceived publish)
  | none => t.note (.nothingPending .pubrel id)

/-- Every release is answered, whether or not its message is still held. -/
def onPubrel (t : Turn) (id : UInt16) : Reply Unit :=
  (t.send (.pubcomp id)).andThen fun _ t => (t.deliverHeld id).done

def receive (t : Turn) (packet : Packet) : Reply Unit :=
  let t := t.record (.packet "Received packet: " packet)
  match packet with
  | .connack connack => (t.onConnack connack).done
  | .publish publish => t.whileConnected .publish fun t => t.onPublish publish
  | .puback id => t.whileConnected .puback fun t =>
    (t.complete .puback id (t.session.inflight.onPuback id) (.publishComplete id)).done
  | .pubrec id => t.whileConnected .pubrec fun t => t.onPubrec id
  | .pubrel id => t.whileConnected .pubrel fun t => t.onPubrel id
  | .pubcomp id => t.whileConnected .pubcomp fun t =>
    (t.complete .pubcomp id (t.session.inflight.onPubcomp id) (.publishComplete id)).done
  | .suback suback => t.whileConnected .suback fun t =>
    (t.complete .suback suback.packetId (t.session.inflight.onSuback suback.packetId)
      (.subscribeComplete suback)).done
  | .unsuback id => t.whileConnected .unsuback fun t =>
    (t.complete .unsuback id (t.session.inflight.onUnsuback id) (.unsubscribeComplete id)).done
  | .pingresp => t.whileConnected .pingresp fun t => (t.emit .pingResponse).done
  | .connect _ | .subscribe _ | .unsubscribe _ | .pingreq | .disconnect =>
    (t.note (.neverFromServer packet.kind)).done

end Mqtt.Turn
