import Mqtt.Simulation.Broker
import Mqtt.Simulation.Bulk
import Mqtt.Session.Run
import Mqtt.Simulation.Traffic

/-!
# A session among brokers

A bench is a session whose transports all lead to brokers. Operations are taken at the bench's
clock; afterwards `deliver` hands the answers that wait on the newest transport to the session, one
by one, with those that are added on the way. What happens meanwhile is gathered until `fresh`.
-/

namespace Mqtt

/-- The far end of one transport. -/
structure Peer where
  broker : Broker
  failing : Bool
  /-- Answers that the session has not been given yet. -/
  queue : List Packet := []
  deriving DecidableEq

namespace Peer

def fault (p : Peer) : Option Error := if p.failing then some .simulated else none

def absorb (p : Peer) : Io → Peer
  | .wrote _ packet => { p with queue := p.queue ++ (p.broker.answer packet).toList }
  | .refused _ _ | .closed _ => p

end Peer

structure Bench where
  session : Session
  /-- The far ends of the transports so far, by number. -/
  peers : Array Peer := #[]
  /-- The broker that transports opened from now on lead to. -/
  broker : Broker := {}
  now : Int := 0
  events : List Event := []
  io : List Io := []
  log : List Entry := []
  failures : List Error := []

namespace Bench

def fresh (b : Bench) : Bench := { b with events := [], io := [], log := [], failures := [] }

def absorb (b : Bench) (t : Turn) : Bench :=
  { b with
    session := t.session
    peers := t.io.foldl (fun peers io => peers.modify io.transport (·.absorb io)) b.peers
    events := b.events ++ t.events
    io := b.io ++ t.io
    log := b.log ++ t.log }

def target (b : Bench) : Session.Input → Option TransportId
  | .report _ (.opened transport) => some transport
  | _ => b.session.transport

def fault (b : Bench) (input : Session.Input) : Option Error :=
  ((b.target input).bind (b.peers[·]?)).bind Peer.fault

def perform (b : Bench) (input : Session.Input) : Except Error Session.Output × Bench :=
  let r := b.session.step input b.now (b.fault input)
  (r.result, b.absorb r.turn)

/-- Adds a transport to the current broker; its number. -/
def addPeer (b : Bench) (failing : Bool) : TransportId × Bench :=
  (b.peers.size, { b with peers := b.peers.push ⟨b.broker, failing, []⟩ })

/-- How many deliveries a waiting answer can lead to: a receipt calls for a release, which is
answered in turn. -/
def workload : Packet → Nat
  | .pubrec _ => 2
  | _ => 1

def newest (b : Bench) : TransportId := b.peers.size - 1

def waiting (b : Bench) : List Packet := ((b.peers[b.newest]?).map Peer.queue).getD []

/-- Hands waiting answers to the session, at most so many. -/
def deliverUpTo : Nat → Bench → Bench
  | 0, b => b
  | steps + 1, b =>
    match b.waiting with
    | [] => b
    | packet :: rest =>
      let b := { b with peers := b.peers.modify b.newest fun p => { p with queue := rest } }
      let (result, b) := b.perform (.report b.session.attempt (.received packet))
      deliverUpTo steps (match result with
        | .ok _ => b
        | .error e => { b with failures := b.failures ++ [e] })

def deliver (b : Bench) : Bench :=
  deliverUpTo (b.waiting.foldr (fun packet n => workload packet + n) 0) b

/-- Takes an operation and then delivers what it was answered. -/
def run (b : Bench) (input : Session.Input) : Except Error Session.Output × Bench :=
  let (result, b) := b.perform input
  (result, b.deliver)

def traffic (b : Bench) : List Traffic := Traffic.ofIo b.io b.peers.size

/-- Takes so many packet identifiers from the session's pool, past its operations. -/
def acquireIds (b : Bench) (n : Nat) : List UInt16 × Bool × Bench :=
  let (ids, all, pool) := b.session.ids.acquireMany n []
  (ids, all, { b with
    session := { b.session with ids := pool }
    log := if all then b.log else b.log ++ [.idsExhausted] })

def releaseIds (b : Bench) (first : UInt16) (n : Nat) : Nat × Bench :=
  let (count, pool) := b.session.ids.releaseRange first n 0
  (count, { b with session := { b.session with ids := pool } })

def setFailing (b : Bench) (transport : TransportId) (failing : Bool) : Bench :=
  { b with peers := b.peers.modify transport fun p => { p with failing := failing } }

end Bench

end Mqtt
