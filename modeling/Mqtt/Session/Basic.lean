import Mqtt.Inflight
import Mqtt.KeepAlive
import Mqtt.Log.Entry
import Mqtt.Options
import Mqtt.PacketIds

/-!
# Sessions

A session is the state of a client from one connection to the next. It never touches a network:
attempts, reports and packets come in as values, and writes go to an installed transport, which it
knows by a number only.
-/

namespace Mqtt

abbrev TransportId := Nat

structure Session where
  options : ConnectOptions
  status : Status
  /-- The time of the latest operation, in microseconds from the session's start. -/
  now : Int
  /-- The identifier sent in each CONNECT; generated at the first attempt if need be. -/
  clientId : String
  /-- The number of the latest connection attempt; 0 before the first. -/
  attempt : Nat
  /-- Where packets are written, while there is a connection. -/
  transport : Option TransportId
  ids : PacketIds
  inflight : Inflight
  keepAlive : KeepAlive

namespace Session

def new (options : ConnectOptions) : Session where
  options := options
  status := .disconnected
  now := 0
  clientId := options.clientId
  attempt := 0
  transport := none
  ids := {}
  inflight := {}
  keepAlive := .ofSeconds options.keepAlive options.autoKeepAlive

/-- Whether an attempt is the latest one and has not ended. -/
def isCurrent (s : Session) (attempt : Nat) : Bool :=
  s.attempt = attempt && s.status ≠ .disconnected

/-- Whole milliseconds from the session's start; none have passed before it. -/
def elapsedMs (time : Int) : Nat := time.toNat / 1000

def snapshot (s : Session) : Snapshot where
  status := s.status
  attempt := s.attempt
  boundIds := s.ids.count
  pending := s.inflight.pendingCount
  held := s.inflight.heldCount
  nextPingMs := s.keepAlive.nextPing.map elapsedMs

end Session

/-- What a transport is asked to do. -/
inductive Io
  | wrote (transport : TransportId) (packet : Packet)
  /-- A write that the transport answered with an error. -/
  | refused (transport : TransportId) (packet : Packet)
  | closed (transport : TransportId)
  deriving DecidableEq

/-- An operation under way: the state so far and what it has put out. -/
structure Turn where
  session : Session
  /-- The error with which the transport answers a write during this operation, if it does. -/
  fault : Option Error
  events : List Event := []
  io : List Io := []
  log : List Entry := []

/-- An operation, or a part of one, that is over. -/
structure Reply (α : Type) where
  result : Except Error α
  turn : Turn

/-- Goes on with what comes next, unless an error ended the operation. -/
def Reply.andThen {α β : Type} (r : Reply α) (next : α → Turn → Reply β) : Reply β :=
  match r.result with
  | .ok a => next a r.turn
  | .error e => ⟨.error e, r.turn⟩

namespace Turn

def start (s : Session) (now : Int) (fault : Option Error) : Turn where
  session := { s with now := now }
  fault := fault

def record (t : Turn) (e : Entry) : Turn := { t with log := t.log ++ [e] }

def note (t : Turn) (n : SessionNote) : Turn :=
  t.record (.session (Session.elapsedMs t.session.now) n)

def emit (t : Turn) (e : Event) : Turn := { t with events := t.events ++ [e] }

def done (t : Turn) : Reply Unit := ⟨.ok (), t⟩

def fail {α : Type} (t : Turn) (e : Error) : Reply α := ⟨.error e, t⟩

def setStatus (t : Turn) (next : Status) : Turn :=
  let t := t.note (.statusChanged t.session.status next)
  { t with session := { t.session with status := next } }

def setInflight (t : Turn) (f : Inflight) : Turn :=
  { t with session := { t.session with inflight := f } }

def release (t : Turn) (id : UInt16) : Turn :=
  { t with session := { t.session with ids := t.session.ids.release id } }

def resetKeepAlive (t : Turn) : Turn :=
  { t with session := { t.session with keepAlive := t.session.keepAlive.reset } }

/-- Closes a transport that is not, or no longer, installed. -/
def discard (t : Turn) (transport : TransportId) : Turn :=
  { t with io := t.io ++ [.closed transport] }

def closeTransport (t : Turn) : Turn :=
  match t.session.transport with
  | none => t
  | some transport =>
    let t := (t.note (.closingTransport t.session.attempt)).discard transport
    { t with session := { t.session with transport := none } }

/-- Forgets the messages held for the server, where sessions do not outlive connections. -/
def dropHeldIfClean (t : Turn) : Turn :=
  if t.session.options.cleanSession then t.setInflight t.session.inflight.dropHeld else t

/-- Gives up everything that waits for an acknowledgement, and frees its identifiers. -/
def abandonPending (t : Turn) : Turn :=
  let (operations, inflight) := t.session.inflight.abandon
  let t := if operations.isEmpty then t else t.note (.abandoning operations.length)
  dropHeldIfClean { t with
    session := { t.session with inflight := inflight, ids := t.session.ids.releaseAll }
    events := t.events ++ operations.map .operationAbandoned }

/-- Closes what there is of a connection and leaves nothing of it behind. -/
def teardown (t : Turn) : Turn :=
  ((t.closeTransport.setStatus .disconnected).resetKeepAlive).abandonPending

/-- Ends a connection that the application did not end. One that was never accepted counts as a
failed attempt, with the reason given. -/
def endConnection (t : Turn) (reason : Error) : Turn :=
  let wasConnecting := t.session.status = .connecting
  t.teardown.emit (if wasConnecting then .connectionFailure reason else .connectionClosed)

def write (t : Turn) (packet : Packet) : Reply Unit :=
  match t.session.transport with
  | none => (t.note (.noTransport packet.kind)).fail .noTransport
  | some transport =>
    let t := t.record (.packet "Writing packet: " packet)
    match t.fault with
    | some e => Turn.fail { t with io := t.io ++ [.refused transport packet] } e
    | none =>
      Turn.done { t with
        io := t.io ++ [.wrote transport packet]
        session := { t.session with keepAlive := t.session.keepAlive.onWrite t.session.now } }

/-- Writes a packet; a write that fails ends the connection. -/
def send (t : Turn) (packet : Packet) : Reply Unit :=
  match t.write packet with
  | ⟨.ok (), t⟩ => t.done
  | ⟨.error e, t⟩ => Turn.fail ((t.note (.writeFailed packet.kind e)).endConnection e) e

end Turn

end Mqtt
