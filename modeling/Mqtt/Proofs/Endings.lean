import Mqtt.Session.Run

/-!
# What a write and the end of a connection leave behind

The parts of an operation that touch the transport, as functions on sessions. `send_of_writable` and
`send_of_unwritable` say all that handing over a packet can do, apart from the log; nothing after
this module opens `Turn.send` or `Turn.teardown`.
-/

namespace Mqtt

/-- The packet that a transport is handed, whether or not it takes it. -/
def Io.attempted? : Io → Option Packet
  | wrote _ packet | refused _ packet => some packet
  | closed _ => none

namespace Session

variable (s : Session)

def atTime (now : Int) : Session := { s with now := now }

def written : Session := { s with keepAlive := s.keepAlive.onWrite s.now }

def install (transport : TransportId) : Session :=
  { s with
    transport := some transport
    inflight := if s.options.cleanSession then s.inflight.dropHeld else s.inflight }

/-- What a write meets: an error of its own without a transport, else the transport's answer. -/
def writeError (fault : Option Error) : Option Error :=
  if s.transport.isSome then fault else some .noTransport

/-- The operations in flight that a connection leaves to the next. -/
def remains : Inflight where
  held := if s.options.cleanSession then ∅ else s.inflight.held

/-- The session once its connection is over. -/
def ended : Session :=
  { s with
    status := .disconnected
    transport := none
    ids := s.ids.releaseAll
    inflight := s.remains
    keepAlive := s.keepAlive.reset }

def abandoned : List Event := s.inflight.abandon.1.map .operationAbandoned

def farewell (reason : Error) : List Event :=
  s.abandoned ++ [if s.status = .connecting then .connectionFailure reason else .connectionClosed]

def closing : List Io := s.transport.toList.map .closed

/-- What the transport sees of a write that ends the connection. -/
def lastWords (packet : Packet) : List Io :=
  s.transport.toList.map (Io.refused · packet) ++ s.closing

def goodbye (fault : Option Error) : List Io :=
  s.transport.toList.map fun transport =>
    if fault.isSome then .refused transport .disconnect else .wrote transport .disconnect

theorem pendingCount_remains : s.remains.pendingCount = 0 := by
  simp [remains, Inflight.pendingCount]

theorem attempted_closing : s.closing.filterMap Io.attempted? = [] := by
  cases h : s.transport <;> simp [closing, h, Io.attempted?]

theorem attempted_lastWords (packet : Packet) :
    (s.lastWords packet).filterMap Io.attempted? = s.transport.toList.map fun _ => packet := by
  rw [lastWords, List.filterMap_append, attempted_closing, List.append_nil]
  cases h : s.transport <;> simp [Io.attempted?]

theorem attempted_goodbye (fault : Option Error) :
    (s.goodbye fault).filterMap Io.attempted? = s.transport.toList.map fun _ => .disconnect := by
  cases h : s.transport <;> cases fault <;> simp [goodbye, h, Io.attempted?]

theorem transport_of_writeError {s : Session} {fault : Option Error}
    (h : s.writeError fault = none) : s.transport.isSome := by
  unfold writeError at h
  split at h
  · assumption
  · cases h

theorem mem_abandoned {e : Event} (h : e ∈ s.abandoned) :
    ∃ operation, e = .operationAbandoned operation := by
  obtain ⟨operation, -, he⟩ := List.mem_map.mp h
  exact ⟨operation, he.symm⟩

theorem filterMap_abandoned {α : Type} {f : Event → Option α}
    (hf : ∀ operation, f (.operationAbandoned operation) = none) :
    s.abandoned.filterMap f = [] := by
  rw [List.filterMap_eq_nil_iff]
  intro e he
  obtain ⟨operation, rfl⟩ := s.mem_abandoned he
  exact hf operation

theorem filterMap_farewell {α : Type} {f : Event → Option α}
    (hf : ∀ operation, f (.operationAbandoned operation) = none) (reason : Error) :
    (s.farewell reason).filterMap f =
      (f (if s.status = .connecting then .connectionFailure reason
        else .connectionClosed)).toList := by
  rw [farewell, List.filterMap_append, s.filterMap_abandoned hf, List.nil_append]
  generalize (if s.status = .connecting then Event.connectionFailure reason
    else .connectionClosed) = e
  cases he : f e with
  | none => simp [he]
  | some a => simp [he]

end Session

namespace Turn

variable (t : Turn)

theorem closeTransport_eq : ∃ log, t.closeTransport =
    { t with
      session := { t.session with transport := none }
      io := t.io ++ t.session.closing
      log := log } := by
  cases h : t.session.transport with
  | none =>
    have hs : { t.session with transport := none } = t.session := by rw [← h]
    refine ⟨t.log, ?_⟩
    simp only [closeTransport, h, hs, Session.closing, Option.toList_none, List.map_nil,
      List.append_nil]
  | some transport =>
    simp only [closeTransport, h, Session.closing, Option.toList_some, List.map_cons, List.map_nil]
    exact ⟨_, rfl⟩

theorem abandonPending_eq : ∃ log, t.abandonPending =
    { t with
      session := { t.session with ids := t.session.ids.releaseAll, inflight := t.session.remains }
      events := t.events ++ t.session.abandoned
      log := log } := by
  unfold abandonPending dropHeldIfClean Session.remains
  dsimp only [Inflight.abandon]
  by_cases he : (Inflight.byId t.session.inflight.pending).isEmpty
  · by_cases hc : t.session.options.cleanSession
    · simp only [he, hc, if_true]
      exact ⟨_, rfl⟩
    · simp only [he, hc, if_true, Bool.false_eq_true, if_false]
      exact ⟨_, rfl⟩
  · by_cases hc : t.session.options.cleanSession
    · simp only [he, note, record, hc, if_true, Bool.false_eq_true, if_false]
      exact ⟨_, rfl⟩
    · simp only [he, note, record, hc, Bool.false_eq_true, if_false]
      exact ⟨_, rfl⟩

theorem teardown_eq : ∃ log, t.teardown =
    { t with
      session := t.session.ended
      events := t.events ++ t.session.abandoned
      io := t.io ++ t.session.closing
      log := log } := by
  obtain ⟨log, hclose⟩ := t.closeTransport_eq
  unfold teardown
  rw [hclose]
  obtain ⟨log', habandon⟩ := abandonPending_eq
    ((Turn.setStatus { t with
      session := { t.session with transport := none }
      io := t.io ++ t.session.closing
      log := log } .disconnected).resetKeepAlive)
  exact ⟨log', habandon⟩

theorem endConnection_eq (reason : Error) : ∃ log, t.endConnection reason =
    { t with
      session := t.session.ended
      events := t.events ++ t.session.farewell reason
      io := t.io ++ t.session.closing
      log := log } := by
  obtain ⟨log, h⟩ := t.teardown_eq
  refine ⟨log, ?_⟩
  simp only [endConnection, h, emit, Session.farewell, List.append_assoc]

theorem send_of_writable (packet : Packet) {transport : TransportId}
    (ht : t.session.transport = some transport) (hf : t.fault = none) :
    ∃ log, t.send packet =
      ⟨.ok (), { t with
        session := t.session.written
        io := t.io ++ [.wrote transport packet]
        log := log }⟩ := by
  refine ⟨t.log ++ [.packet "Writing packet: " packet], ?_⟩
  simp only [send, write, ht, record, hf, done, Session.written]

/-- A write that fails ends the connection, whatever it failed with. -/
theorem send_of_unwritable (packet : Packet) {e : Error}
    (he : t.session.writeError t.fault = some e) :
    ∃ log, t.send packet =
      ⟨.error e, { t with
        session := t.session.ended
        events := t.events ++ t.session.farewell e
        io := t.io ++ t.session.lastWords packet
        log := log }⟩ := by
  cases ht : t.session.transport with
  | none =>
    have hn : e = .noTransport := by simpa [Session.writeError, ht] using he.symm
    subst hn
    simp only [send, write, ht, fail]
    obtain ⟨log, h⟩ := ((t.note (.noTransport packet.kind)).note
      (.writeFailed packet.kind .noTransport)).endConnection_eq .noTransport
    refine ⟨log, ?_⟩
    rw [h]
    simp [note, record, Session.lastWords, ht]
  | some transport =>
    have hf : t.fault = some e := by simpa [Session.writeError, ht] using he
    simp only [send, write, ht, record, hf, fail]
    obtain ⟨log, h⟩ := (Turn.note { t with
        io := t.io ++ [.refused transport packet]
        log := t.log ++ [.packet "Writing packet: " packet] }
      (.writeFailed packet.kind e)).endConnection_eq e
    refine ⟨log, ?_⟩
    simp only [hf] at h
    rw [h]
    simp [note, record, Session.lastWords, ht]

theorem sayGoodbye_teardown_eq : ∃ log, t.sayGoodbye.teardown =
    { t with
      session := t.session.ended
      events := t.events ++ t.session.abandoned
      io := t.io ++ t.session.goodbye t.fault ++ t.session.closing
      log := log } := by
  obtain ⟨log, h⟩ := t.sayGoodbye.teardown_eq
  refine ⟨log, ?_⟩
  rw [h]
  cases ht : t.session.transport with
  | none => simp [sayGoodbye, ht, Session.goodbye]
  | some transport =>
    cases hf : t.fault with
    | none => simp [sayGoodbye, write, ht, hf, Session.goodbye, Session.ended, Session.remains,
        Session.abandoned, Session.closing, KeepAlive.onWrite, KeepAlive.reset, record, done]
    | some e => simp [sayGoodbye, write, ht, hf, Session.goodbye, Session.closing, record, note,
        fail]

end Turn

end Mqtt
