import Mqtt.Proofs.Endings

/-!
# What a session can do

The rules by which a session moves. `Idle` lists why an operation may have no effect, `Writes` the
places from which a packet is written, and `Transition` all that an operation can do. The log is
left out. `step_transition` says that every operation follows a rule, so that later facts about
operations are proved by cases on the rules and open no definition of `Session.step`.
-/

namespace Mqtt

/-- What an operation yields, its log apart. -/
structure Session.Yield where
  result : Except Error Session.Output
  session : Session
  events : List Event
  io : List Io

def Reply.yield {α : Type} (r : Reply α) (output : α → Session.Output) : Session.Yield where
  result := r.result.map output
  session := r.turn.session
  events := r.turn.events
  io := r.turn.io

/-- Packets that only an accepted connection can bring. -/
def Packet.needsAcceptance : Packet → Bool
  | publish _ | puback _ | pubrec _ | pubrel _ | pubcomp _ | suback _ | unsuback _
  | pingresp => true
  | connect _ | connack _ | subscribe _ | unsubscribe _ | pingreq | disconnect => false

/-- Packets that only a client sends. -/
def Packet.isClients : Packet → Bool
  | connect _ | subscribe _ | unsubscribe _ | pingreq | disconnect => true
  | connack _ | publish _ | puback _ | pubrec _ | pubrel _ | pubcomp _ | suback _ | unsuback _
  | pingresp => false

/-- The identifier and the event of the acknowledgements that complete an operation. -/
def Packet.completion : Packet → Option (UInt16 × Event)
  | puback id | pubcomp id => some (id, .publishComplete id)
  | suback packet => some (packet.packetId, .subscribeComplete packet)
  | unsuback id => some (id, .unsubscribeComplete id)
  | _ => none

def Inflight.onAck (f : Inflight) : Packet → Option Inflight
  | .puback id => f.onPuback id
  | .pubcomp id => f.onPubcomp id
  | .suback packet => f.onSuback packet.packetId
  | .unsuback id => f.onUnsuback id
  | _ => none

def Request.check : Request → Except Rejection Unit
  | publish packet => packet.check
  | subscribe packet => packet.check
  | unsubscribe packet => packet.check
  | ping | disconnect => .ok ()

/-- Requests that take a packet identifier. -/
def Request.takesId : Request → Bool
  | publish _ | subscribe _ | unsubscribe _ => true
  | ping | disconnect => false

namespace Session

/-- The reasons for an operation to have no effect, with what it yields. -/
inductive Idle (s : Session) : Input → Except Error Output → Prop
  | connectNotAllowed (generated : String) (hs : s.status ≠ .disconnected) :
      Idle s (.startConnect generated) (.error (.connectNotAllowed s.status))
  | staleReport (attempt : Nat) (report : Report) (ha : attempt ≠ s.attempt)
      (hr : ∀ transport, report ≠ .opened transport) :
      Idle s (.report attempt report) (.ok .done)
  | failedLate (e : Error) (hs : s.status ≠ .connecting) :
      Idle s (.report s.attempt (.failed e)) (.ok .done)
  | closedLate (hs : s.status = .disconnected) : Idle s (.report s.attempt .closed) (.ok .done)
  | connackLate (connack : Connack) (hs : s.status ≠ .connecting) :
      Idle s (.report s.attempt (.received (.connack connack))) (.ok .done)
  | outOfPlace (packet : Packet) (hp : packet.needsAcceptance) (hs : s.status ≠ .connected) :
      Idle s (.report s.attempt (.received packet)) (.ok .done)
  | neverFromServer (packet : Packet) (hp : packet.isClients) :
      Idle s (.report s.attempt (.received packet)) (.ok .done)
  | nothingPending (packet : Packet) (hs : s.status = .connected) (hp : packet.completion.isSome)
      (ha : s.inflight.onAck packet = none) :
      Idle s (.report s.attempt (.received packet)) (.ok .done)
  | nothingToRelease (id : UInt16) (hs : s.status = .connected)
      (hr : s.inflight.onPubrec id = none) :
      Idle s (.report s.attempt (.received (.pubrec id))) (.ok .done)
  | rejected (request : Request) (why : Rejection) (hc : request.check = .error why) :
      Idle s (.request request) (.error why.error)
  | notConnected (request : Request) (hc : request.check = .ok ()) (hd : request ≠ .disconnect)
      (hs : s.status ≠ .connected) : Idle s (.request request) (.error (.notConnected s.status))
  | nothingToDisconnect (h₁ : s.status ≠ .connected) (h₂ : s.status ≠ .connecting) :
      Idle s (.request .disconnect) (.error (.nothingToDisconnect s.status))
  | notDue (h : ¬(s.status = .connected ∧ s.keepAlive.isDue s.now)) : Idle s .service (.ok .done)
  | nextService : Idle s .nextService
      (.ok (.due (if s.status = .connected then s.keepAlive.nextPing else none)))

/-- `Writes s input packet u v events output` says that the operation prepares the session `u` and
hands over the packet; if it is taken, the operation yields the output, the events and the session
`v`, still without the note of the write. -/
inductive Writes (s : Session) :
    Input → Packet → Session → Session → List Event → Output → Prop
  | connect (transport : TransportId) (hs : s.status = .connecting) :
      Writes s (.report s.attempt (.opened transport))
        (.connect (s.options.connectPacket s.clientId)) (s.install transport) (s.install transport)
        [] .done
  | puback (message : Publish) (hs : s.status = .connected) (hq : message.qos = .atLeastOnce) :
      Writes s (.report s.attempt (.received (.publish message))) (.puback message.packetId) s s
        [.publishReceived message] .done
  | pubrec (message : Publish) (hs : s.status = .connected) (hq : message.qos = .exactlyOnce)
      (u : Session) (hu : u = { s with inflight := (s.inflight.hold message).getD s.inflight }) :
      Writes s (.report s.attempt (.received (.publish message))) (.pubrec message.packetId) u u
        [] .done
  | pubrel (id : UInt16) (f : Inflight) (hs : s.status = .connected)
      (hr : s.inflight.onPubrec id = some f) :
      Writes s (.report s.attempt (.received (.pubrec id))) (.pubrel id) { s with inflight := f }
        { s with inflight := f } [] .done
  | pubcompOnly (id : UInt16) (hs : s.status = .connected) (hr : s.inflight.unhold id = none) :
      Writes s (.report s.attempt (.received (.pubrel id))) (.pubcomp id) s s [] .done
  | pubcomp (id : UInt16) (message : Publish) (f : Inflight) (hs : s.status = .connected)
      (hr : s.inflight.unhold id = some (message, f)) :
      Writes s (.report s.attempt (.received (.pubrel id))) (.pubcomp id) s
        { s with inflight := f } [.publishReceived message] .done
  | publishOnce (packet : Publish) (id : UInt16) (ids : PacketIds) (hc : packet.check = .ok ())
      (hs : s.status = .connected) (ha : s.ids.acquire = (some id, ids))
      (hq : packet.qos = .atMostOnce) :
      Writes s (.request (.publish packet)) (.publish { packet with packetId := id })
        { s with ids := ids } { s with ids := ids.release id } [.publishSent id]
        (.packetId (some id))
  | publish (packet : Publish) (id : UInt16) (ids : PacketIds) (hc : packet.check = .ok ())
      (hs : s.status = .connected) (ha : s.ids.acquire = (some id, ids))
      (hq : packet.qos ≠ .atMostOnce) :
      Writes s (.request (.publish packet)) (.publish { packet with packetId := id })
        { s with ids := ids }
        { s with ids := ids, inflight := s.inflight.trackPublish { packet with packetId := id } }
        [.publishSent id] (.packetId (some id))
  | subscribe (packet : Subscribe) (id : UInt16) (ids : PacketIds) (hc : packet.check = .ok ())
      (hs : s.status = .connected) (ha : s.ids.acquire = (some id, ids)) :
      Writes s (.request (.subscribe packet)) (.subscribe { packet with packetId := id })
        { s with ids := ids } { s with ids := ids, inflight := s.inflight.trackSubscribe id }
        [] (.packetId (some id))
  | unsubscribe (packet : Unsubscribe) (id : UInt16) (ids : PacketIds) (hc : packet.check = .ok ())
      (hs : s.status = .connected) (ha : s.ids.acquire = (some id, ids)) :
      Writes s (.request (.unsubscribe packet)) (.unsubscribe { packet with packetId := id })
        { s with ids := ids } { s with ids := ids, inflight := s.inflight.trackUnsubscribe id }
        [] (.packetId (some id))
  | ping (hs : s.status = .connected) : Writes s (.request .ping) .pingreq s s [] (.packetId none)
  | keepAlive (hs : s.status = .connected) (hd : s.keepAlive.isDue s.now) :
      Writes s .service .pingreq s s [] .done

/-- All that an operation on a session can do, at the session's time and with the answer that the
transport gives to a write. -/
inductive Transition (s : Session) (fault : Option Error) : Input → Yield → Prop
  | idle {input : Input} {result : Except Error Output} (h : Idle s input result) :
      Transition s fault input ⟨result, s, [], []⟩
  | wrote {input : Input} {packet : Packet} {u v : Session} {events : List Event} {output : Output}
      {transport : TransportId} (h : Writes s input packet u v events output)
      (ht : u.transport = some transport) (hf : fault = none) :
      Transition s fault input ⟨.ok output, v.written, events, [.wrote transport packet]⟩
  | writeFailed {input : Input} {packet : Packet} {u v : Session} {events : List Event}
      {output : Output} {e : Error} (h : Writes s input packet u v events output)
      (he : u.writeError fault = some e) :
      Transition s fault input ⟨.error e, u.ended, u.farewell e, u.lastWords packet⟩
  | discarded (attempt : Nat) (transport : TransportId)
      (h : attempt ≠ s.attempt ∨ s.status ≠ .connecting) :
      Transition s fault (.report attempt (.opened transport))
        ⟨.error (.attemptCancelled s.status), s, [], [.closed transport]⟩
  | began (generated : String) (hs : s.status = .disconnected) (clientId : String)
      (hc : clientId =
        if s.clientId.isEmpty && s.options.generateClientId then generated else s.clientId) :
      Transition s fault (.startConnect generated)
        ⟨.ok (.attempt (s.attempt + 1)),
          { s with clientId := clientId, attempt := s.attempt + 1, status := .connecting }, [], []⟩
  | failed (e : Error) (hs : s.status = .connecting) :
      Transition s fault (.report s.attempt (.failed e))
        ⟨.ok .done, { s with status := .disconnected }, [.connectionFailure e], []⟩
  | closed (hs : s.status ≠ .disconnected) :
      Transition s fault (.report s.attempt .closed)
        ⟨.ok .done, s.ended, s.farewell .closedBeforeAccepted, s.closing⟩
  | accepted (connack : Connack) (hs : s.status = .connecting)
      (hc : connack.returnCode.isAccepted) :
      Transition s fault (.report s.attempt (.received (.connack connack)))
        ⟨.ok .done, { s with status := .connected }, [.connectionSuccess connack], []⟩
  | refused (connack : Connack) (hs : s.status = .connecting)
      (hc : ¬connack.returnCode.isAccepted) :
      Transition s fault (.report s.attempt (.received (.connack connack)))
        ⟨.ok .done,
          { s with
            status := .disconnected, transport := none, keepAlive := s.keepAlive.reset },
          [.connectionFailure (.connectionRefused connack.returnCode)], s.closing⟩
  | delivered (message : Publish) (hs : s.status = .connected) (hq : message.qos = .atMostOnce) :
      Transition s fault (.report s.attempt (.received (.publish message)))
        ⟨.ok .done, s, [.publishReceived message], []⟩
  | completed (packet : Packet) (id : UInt16) (event : Event) (f : Inflight)
      (hs : s.status = .connected) (hp : packet.completion = some (id, event))
      (ha : s.inflight.onAck packet = some f) :
      Transition s fault (.report s.attempt (.received packet))
        ⟨.ok .done, { s with inflight := f, ids := s.ids.release id }, [event], []⟩
  | ponged (hs : s.status = .connected) :
      Transition s fault (.report s.attempt (.received .pingresp))
        ⟨.ok .done, s, [.pingResponse], []⟩
  | exhausted (request : Request) (ids : PacketIds) (hc : request.check = .ok ())
      (hr : request.takesId) (hs : s.status = .connected) (ha : s.ids.acquire = (none, ids)) :
      Transition s fault (.request request)
        ⟨.error .identifierExhaustion, { s with ids := ids }, [], []⟩
  | disconnected (hs : s.status = .connected ∨ s.status = .connecting) :
      Transition s fault (.request .disconnect)
        ⟨.ok (.packetId none), s.ended,
          s.abandoned ++ (if s.status = .connecting then
            [.connectionFailure .cancelledByDisconnect] else []),
          s.goodbye fault ++ s.closing⟩

/-! ### What no rule changes -/

section Frame

variable {s u v : Session} {input : Input} {packet : Packet} {events : List Event} {output : Output}

theorem Writes.frame (h : Writes s input packet u v events output) :
    (u.options = s.options ∧ u.status = s.status ∧ u.attempt = s.attempt) ∧
      v.options = s.options ∧ v.status = s.status ∧ v.attempt = s.attempt := by
  cases h with
  | pubrec _ _ _ _ hu =>
    subst hu
    exact ⟨⟨rfl, rfl, rfl⟩, rfl, rfl, rfl⟩
  | connect _ _ | puback _ _ _ | pubrel _ _ _ _ | pubcompOnly _ _ _ | pubcomp _ _ _ _ _
  | publishOnce _ _ _ _ _ _ _ | publish _ _ _ _ _ _ _ | subscribe _ _ _ _ _ _
  | unsubscribe _ _ _ _ _ _ | ping _ | keepAlive _ _ => exact ⟨⟨rfl, rfl, rfl⟩, rfl, rfl, rfl⟩

theorem Writes.transport_eq (h : Writes s input packet u v events output) :
    v.transport = u.transport := by
  cases h <;> rfl

theorem Writes.status_ne (h : Writes s input packet u v events output) :
    s.status ≠ .disconnected := by
  have hone : s.status = .connecting ∨ s.status = .connected := by
    cases h with
    | connect _ hs => exact .inl hs
    | puback _ hs _ | pubrec _ hs _ _ _ | pubrel _ _ hs _ | pubcompOnly _ hs _ | pubcomp _ _ _ hs _
    | publishOnce _ _ _ _ hs _ _ | publish _ _ _ _ hs _ _ | subscribe _ _ _ _ hs _
    | unsubscribe _ _ _ _ hs _ | ping hs | keepAlive hs _ => exact .inr hs
  rcases hone with hs | hs
  · simp [hs]
  · simp [hs]

theorem Transition.options_eq {fault : Option Error} {y : Yield} (h : Transition s fault input y) :
    y.session.options = s.options := by
  cases h with
  | wrote hw _ _ => exact hw.frame.2.1
  | writeFailed hw _ => exact hw.frame.1.1
  | idle _ | discarded _ _ _ | began _ _ _ _ | failed _ _ | closed _ | accepted _ _ _
  | refused _ _ _ | delivered _ _ _ | completed _ _ _ _ _ _ _ | ponged _ | exhausted _ _ _ _ _ _
  | disconnected _ => rfl

end Frame

end Session
end Mqtt
