import Mqtt.Client.Call
import Mqtt.Session.Run

/-!
# Clients

A client is a session with the application on its other side. Events that the session puts out wait
in a queue until they are dispatched to the handlers, one at a time. Here are the single calls: what
each asks of the session, and what it yields apart from the client's next state, gathered in a
round.
-/

namespace Mqtt

structure Client where
  options : ClientOptions
  session : Session
  /-- The events that no handler has been told of yet, oldest first. -/
  queue : List Event := []
  /-- Whether a handler is at work further up. -/
  dispatching : Bool := false
  handlers : Handlers Handler := {}

namespace Client

def new (options : ClientOptions) : Client where
  options := options
  session := .new options.connect

/-- Makes a client, unless the options are illegal; with what is noted of it. -/
def build (options : ClientOptions) : Except Error Client × List Entry :=
  if options.host.isEmpty then (.error .emptyHost, [.client .emptyHost])
  else match options.connect.will.elim (.ok ()) Will.check with
    | .error rejection => (.error rejection.error, [.rejected rejection])
    | .ok () => (.ok (.new options), [.client (.created options.host options.port)])

def spelled (c : Client) : String :=
  Text.spellRecord "MqttClient"
    [("host", Text.quoted c.options.host), ("port", toString c.options.port),
      ("state", c.session.status.name)]

end Client

/-- What a client finds around it. -/
structure Env where
  /-- Microseconds from the session's start. -/
  now : Int
  /-- The identifier for a client that has none. -/
  freshId : String
  /-- The error of a write to a transport, if it fails. -/
  fault : TransportId → Option Error

/-- What happens between a client and its application. -/
inductive Moment
  | emitted (event : Event)
  | dispatched (event : Event)
  | invoked (kind : EventKind) (tag : String) (notice : Notice)
  | returned (call : Call) (result : Except Error Answer)
  /-- A connect call in the background returns. -/
  | connectEnded (result : Except Error Unit)

inductive Effect
  | io (io : Io)
  | spawnConnect
  deriving DecidableEq

/-- A call of a client under way, with what has come of it so far. -/
structure Round where
  client : Client
  env : Env
  journal : List Moment := []
  effects : List Effect := []
  log : List Entry := []

namespace Round

def note (r : Round) (n : ClientNote) : Round := { r with log := r.log ++ [.client n] }

def mark (r : Round) (m : Moment) : Round := { r with journal := r.journal ++ [m] }

def setHandlers (r : Round) (handlers : Handlers Handler) : Round :=
  { r with client := { r.client with handlers := handlers } }

def take {α : Type} (r : Round) (reply : Reply α) : Except Error α × Round :=
  (reply.result, { r with
    client := { r.client with
      session := reply.turn.session
      queue := r.client.queue ++ reply.turn.events }
    journal := r.journal ++ reply.turn.events.map .emitted
    effects := r.effects ++ reply.turn.io.map .io
    log := r.log ++ reply.turn.log })

/-- The error of a write to the installed transport. -/
def fault (r : Round) : Option Error := r.client.session.transport.bind r.env.fault

def startConnect (r : Round) : Except Error Nat × Round :=
  r.take (r.client.session.startConnect r.env.freshId r.env.now)

def report (r : Round) (attempt : Nat) (report : Report) : Except Error Unit × Round :=
  let fault := match report with
    | .opened transport => r.env.fault transport
    | _ => r.fault
  r.take (r.client.session.report attempt report r.env.now fault)

def request (r : Round) (request : Request) : Except Error (Option UInt16) × Round :=
  r.take (r.client.session.request request r.env.now r.fault)

def service (r : Round) : Except Error Unit × Round :=
  r.take (r.client.session.service r.env.now r.fault)

def nextService (r : Round) : Except Error (Option Int) × Round :=
  r.take (r.client.session.nextService r.env.now)

end Round

def Answer.ofPacketId : Except Error (Option UInt16) → Except Error Answer
  | .ok (some id) => .ok (.packetId id)
  | .ok none => .error .noPacketId
  | .error e => .error e

namespace Round

/-- Makes a call; the events that it leads to are left in the queue. -/
def make (r : Round) : Call → Except Error Answer × Round
  | .disconnect =>
    let (result, r) := (r.note .disconnectRequested).request .disconnect
    (result.map fun _ => .done, r)
  | .publish packet =>
    let (result, r) := (r.note (.publishSubmitted packet.topic)).request (.publish packet)
    (Answer.ofPacketId result, r)
  | .subscribe packet =>
    let (result, r) := (r.note .subscribeSubmitted).request (.subscribe packet)
    (Answer.ofPacketId result, r)
  | .unsubscribe packet =>
    let (result, r) := (r.note .unsubscribeSubmitted).request (.unsubscribe packet)
    (Answer.ofPacketId result, r)
  | .ping =>
    let (result, r) := r.request .ping
    (result.map fun _ => .done, r)
  | .status => (.ok (.status r.client.session.status), r)
  | .clientId => (.ok (.text r.client.session.clientId), r)
  | .describe => (.ok (.text r.client.spelled), r)
  | .spawnConnect => (.ok .done, { r with effects := r.effects ++ [.spawnConnect] })
  | .setHandler kind tag calls rounds panics =>
    (.ok .done, r.setHandlers (r.client.handlers.insert kind ⟨tag, calls, rounds, panics⟩))
  | .clearHandler kind => (.ok .done, r.setHandlers (r.client.handlers.erase kind))

end Round

end Mqtt
