import Mqtt.Session.Connection

/-!
# Requests of the application

A publish, subscribe or unsubscribe is checked, then needs an accepted connection, then a packet
identifier, and then is written. Whatever stops it before the write changes nothing. The identifier
of a publish that nothing will acknowledge is free again at once.
-/

namespace Mqtt

inductive Request
  | publish (packet : Publish)
  | subscribe (packet : Subscribe)
  | unsubscribe (packet : Unsubscribe)
  | ping
  | disconnect
  deriving DecidableEq

namespace Turn

def requireValid (t : Turn) (check : Except Rejection Unit) : Reply Unit :=
  match check with
  | .ok () => t.done
  | .error rejection => (t.record (.rejected rejection)).fail rejection.error

def requireConnected (t : Turn) (request : String) : Reply Unit :=
  if t.session.status = .connected then t.done
  else
    (t.note (.notConnected request t.session.status)).fail (.notConnected t.session.status)

def acquire (t : Turn) : Reply UInt16 :=
  match t.session.ids.acquire with
  | (some id, ids) => ⟨.ok id, { t with session := { t.session with ids := ids } }⟩
  | (none, ids) =>
    let t := { t with session := { t.session with ids := ids } }
    (t.record .idsExhausted).fail .identifierExhaustion

/-- Remembers a written publish, or frees its identifier where nothing will acknowledge it. -/
def trackPublish (t : Turn) (packet : Publish) : Turn :=
  if packet.qos = .atMostOnce then t.release packet.packetId
  else t.setInflight (t.session.inflight.trackPublish packet)

def publish (t : Turn) (packet : Publish) : Reply (Option UInt16) :=
  (t.requireValid packet.check).andThen fun _ t =>
  (t.requireConnected "publish").andThen fun _ t =>
  t.acquire.andThen fun id t =>
  let packet := { packet with packetId := id }
  (t.send (.publish packet)).andThen fun _ t =>
  ⟨.ok (some id), (t.trackPublish packet).emit (.publishSent id)⟩

def subscribe (t : Turn) (packet : Subscribe) : Reply (Option UInt16) :=
  (t.requireValid packet.check).andThen fun _ t =>
  (t.requireConnected "subscribe").andThen fun _ t =>
  t.acquire.andThen fun id t =>
  (t.send (.subscribe { packet with packetId := id })).andThen fun _ t =>
  ⟨.ok (some id), t.setInflight (t.session.inflight.trackSubscribe id)⟩

def unsubscribe (t : Turn) (packet : Unsubscribe) : Reply (Option UInt16) :=
  (t.requireValid packet.check).andThen fun _ t =>
  (t.requireConnected "unsubscribe").andThen fun _ t =>
  t.acquire.andThen fun id t =>
  (t.send (.unsubscribe { packet with packetId := id })).andThen fun _ t =>
  ⟨.ok (some id), t.setInflight (t.session.inflight.trackUnsubscribe id)⟩

def ping (t : Turn) : Reply (Option UInt16) :=
  (t.requireConnected "ping").andThen fun _ t =>
  (t.send .pingreq).andThen fun _ t => ⟨.ok none, t⟩

/-- Tells the server goodbye, if there is a transport to do so. The connection ends anyway, so a
failure is only noted. -/
def sayGoodbye (t : Turn) : Turn :=
  if t.session.transport.isSome then
    match t.write .disconnect with
    | ⟨.ok (), t⟩ => t
    | ⟨.error e, t⟩ => t.note (.disconnectNotWritten e)
  else t

def disconnect (t : Turn) : Reply (Option UInt16) :=
  let status := t.session.status
  if status = .connected ∨ status = .connecting then
    let t := ((t.setStatus .disconnecting).sayGoodbye).teardown
    ⟨.ok none,
      if status = .connecting then t.emit (.connectionFailure .cancelledByDisconnect) else t⟩
  else (t.note (.nothingToDisconnect status)).fail (.nothingToDisconnect status)

/-- Handles a request; publish, subscribe and unsubscribe tell the identifier that they got. -/
def request (t : Turn) (request : Request) : Reply (Option UInt16) :=
  (match request with
    | .publish packet => t.publish packet
    | .subscribe packet => t.subscribe packet
    | .unsubscribe packet => t.unsubscribe packet
    | .ping => t.ping
    | .disconnect => t.disconnect).summarize .requestHandled

end Turn

end Mqtt
