import Mqtt.Client.Connect
import Mqtt.Simulation.Link
import Mqtt.Simulation.Traffic

/-!
# A client's world

A world is a client, the links that it has opened, and tasks that take turns on one thread. A task
that has something to do stands in the ready queue; one that waits for a time has set an alarm. A
turn lasts until the task has to wait, ends, or has used up its allowance. Each entry of the client
is one round, whose effects are carried out on links and tasks in their order. What happens
meanwhile is gathered until `fresh`.
-/

namespace Mqtt

abbrev TaskId := Nat

inductive Stage
  | looking
  /-- Waiting for a signal, or for a time, in milliseconds. -/
  | waiting (due : Option Nat)
  deriving DecidableEq

inductive Task
  | connect
  /-- A connect call that waits for its connector. -/
  | dial (attempt : Nat) (plan : ConnectPlan)
  | delivery (attempt : Nat) (link : TransportId) (stage : Stage)
  | over
  deriving DecidableEq

structure Alarm where
  task : TaskId
  due : Nat
  deriving DecidableEq

structure World where
  client : Client
  /-- The identifier that the client would generate. -/
  freshId : String
  now : Nat := 0
  /-- How connection attempts will go that reach the connector from now on. -/
  plan : ConnectPlan := {}
  links : Array Link := #[]
  tasks : Array Task := #[]
  /-- The tasks that have something to do, in the order of their turns. -/
  ready : List TaskId := []
  /-- How much of its allowance the task at the head has used up in this turn. -/
  spent : Nat := 0
  /-- Alarms, in the order in which they were set. -/
  alarms : List Alarm := []
  journal : List Moment := []
  io : List Io := []
  dialed : List String := []
  log : List Entry := []

namespace World

def fresh (w : World) : World := { w with journal := [], io := [], dialed := [], log := [] }

def traffic (w : World) : List Traffic :=
  Traffic.ofIo w.io w.links.size

def mark (w : World) (m : Moment) : World := { w with journal := w.journal ++ [m] }

/-! ### Tasks -/

def setTask (w : World) (id : TaskId) (task : Task) : World :=
  { w with tasks := w.tasks.set! id task }

/-- Puts a task into the ready queue, unless it stands there already. -/
def wake (w : World) (id : TaskId) : World :=
  if w.ready.contains id then w else { w with ready := w.ready ++ [id] }

def rest (w : World) (id : TaskId) : World := { w with ready := w.ready.erase id, spent := 0 }

/-- Ends a task's turn, and asks for another one after all tasks that have something to do. -/
def standBack (w : World) (id : TaskId) : World := (w.rest id).wake id

/-- Counts a signal or a service against the allowance. -/
def spend (w : World) : World := { w with spent := w.spent + 1 }

def spawn (w : World) (task : Task) : World :=
  { w with tasks := w.tasks.push task, ready := w.ready ++ [w.tasks.size] }

def restUntil (w : World) (id : TaskId) (due : Nat) : World :=
  { w.rest id with alarms := w.alarms ++ [⟨id, due⟩] }

def disarm (w : World) (id : TaskId) : World :=
  { w with alarms := w.alarms.filter (·.task ≠ id) }

def finish (w : World) (id : TaskId) : World := (w.setTask id .over).rest id

/-! ### Links -/

/-- Wakes the task that reads a link, if there is anything to read. -/
def wakeReader (w : World) (link : TransportId) : World :=
  match w.links[link]? with
  | none => w
  | some l =>
    match l.reader with
    | .task id => if l.next?.isSome then w.wake id else w
    | .none | .gone => w

def modifyLink (w : World) (link : TransportId) (f : Link → Link) : World :=
  { w with links := w.links.modify link f }.wakeReader link

/-! ### Entering the client -/

def env (w : World) : Env where
  now := 1000 * w.now
  freshId := w.freshId
  fault transport := (w.links[transport]?).bind Link.fault

def carryOut (w : World) : Effect → World
  | .io io => { w with io := w.io ++ [io] }.modifyLink io.transport (·.absorb io)
  | .spawnConnect => w.spawn .connect

def enter {α : Type} (w : World) (act : Round → α × Round) : α × World :=
  let (a, r) := act { client := w.client, env := w.env }
  (a, r.effects.foldl carryOut { w with
    client := r.client
    journal := w.journal ++ r.journal
    log := w.log ++ r.log })

/-! ### Connecting -/

/-- The first half of a connect call: the number of the attempt, and how it will go. -/
def beginConnect (w : World) : Except Error (Nat × ConnectPlan) × World :=
  let (result, w) := w.enter Round.beginConnect
  match result with
  | .error e => (.error e, w)
  | .ok attempt =>
    let endpoint := ClientNote.endpoint w.client.options.host w.client.options.port
    (.ok (attempt, w.plan), { w with dialed := w.dialed ++ [endpoint] })

def spawnDelivery (w : World) (attempt : Nat) (link : TransportId) : World :=
  { w with links := w.links.modify link fun l => { l with reader := .task w.tasks.size } }.spawn
    (.delivery attempt link .looking)

/-- The second half of a connect call: its connector is done, as planned. -/
def finishConnect (w : World) (attempt : Nat) (plan : ConnectPlan) : Except Error Unit × World :=
  match plan.failure with
  | some message => w.enter (·.finishConnect attempt (.error (.transport (.text message))))
  | none =>
    let link := w.links.size
    let w := { w with links := w.links.push (.ofPlan plan) }
    let (result, w) := w.enter (·.finishConnect attempt (.ok link))
    match result with
    | .ok () => (.ok (), w.spawnDelivery attempt link)
    | .error e => (.error e, w.modifyLink link Link.abandon)

end World

end Mqtt
