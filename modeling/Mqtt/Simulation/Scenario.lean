import Mqtt.Simulation.Turns

/-!
# Scenarios

What a tester does with a world, step by step: calls of the application, signals from afar, and time
passing. After each step the tasks go on until none has anything to do.
-/

namespace Mqtt

/-- A step of a tester; where a link is not named, the newest is meant. -/
inductive Step
  | call (call : Call)
  | connect
  | options
  | inject (signals : List Signal) (link : Option TransportId)
  /-- The tester gives up sending to a link. -/
  | dropSender (link : Option TransportId)
  | setFailing (failing : Bool) (link : Option TransportId)
  | advance (ms : Nat)
  | pause

inductive Outcome
  | returned (result : Except Error Answer)
  | options (options : ClientOptions)
  /-- Whether the last signal found a reader, if it could be sent. -/
  | sent (found : Option Bool)
  | nothing

namespace World

def start (client : Client) (freshId : String) : World where
  client := client
  freshId := freshId

def newest (w : World) : TransportId := w.links.size - 1

def connect (w : World) : Except Error Unit × World :=
  let (result, w) := w.beginConnect
  match result with
  | .error e => (.error e, w)
  | .ok (attempt, plan) => (w.sleep plan.delay).finishConnect attempt plan

def inject (w : World) (signals : List Signal) (link : TransportId) : Option Bool × World :=
  match w.links[link]? with
  | none => (none, w)
  | some l =>
    if l.held && !signals.isEmpty then (some l.isRead, w.modifyLink link (·.send signals))
    else (none, w)

def take (w : World) : Step → Outcome × World
  | .call call =>
    let (result, w) := w.enter (·.call call)
    (.returned result, w)
  | .connect =>
    let (result, w) := w.connect
    (.returned (result.map fun _ => .done), w)
  | .options => (.options w.client.options, w)
  | .inject signals link =>
    let (found, w) := w.inject signals (link.getD w.newest)
    (.sent found, w)
  | .dropSender link =>
    (.nothing, w.modifyLink (link.getD w.newest) fun l => { l with held := false })
  | .setFailing failing link =>
    (.nothing, w.modifyLink (link.getD w.newest) fun l => { l with failing := failing })
  | .advance ms => (.nothing, w.sleep ms)
  | .pause => (.nothing, w)

/-- Takes a step, and lets the tasks go on. -/
def run (w : World) (step : Step) : Outcome × World :=
  let (outcome, w) := w.take step
  (outcome, w.settle)

end World

end Mqtt
