import Mqtt.Simulation.World

/-!
# Turns and time

The task at the head of the ready queue goes on, step by step, until it has to wait, ends, or has
used up its allowance; then it is the next one's turn. When no task has anything to do, the clock
jumps to the earliest alarm.
-/

namespace Mqtt.World

def endConnect (w : World) (id : TaskId) (attempt : Nat) (plan : ConnectPlan) : World :=
  let (result, w) := w.finishConnect attempt plan
  (w.mark (.connectEnded result)).finish id

/-- Begins a connect call in the background; a connector without a delay is done at once. -/
def startConnect (w : World) (id : TaskId) : World :=
  let (result, w) := w.beginConnect
  match result with
  | .error e => (w.mark (.connectEnded (.error e))).finish id
  | .ok (attempt, plan) =>
    if plan.delay = 0 then w.endConnect id attempt plan
    else (w.setTask id (.dial attempt plan)).restUntil id (w.now + plan.delay)

def endDelivery (w : World) (id : TaskId) (link : TransportId) : World :=
  (w.modifyLink link Link.abandon).finish id

/-- The head of a delivery's loop. A service that is overdue is due now. -/
def look (w : World) (id : TaskId) (attempt : Nat) (link : TransportId) : World :=
  let (next, w) := w.enter (·.look attempt)
  match next with
  | none => w.endDelivery id link
  | some due =>
    let due := due.map fun time => max w.now (Session.elapsedMs time)
    w.setTask id (.delivery attempt link (.waiting due))

def onSignal (w : World) (id : TaskId) (attempt : Nat) (link : TransportId) (signal : Signal) :
    World :=
  let (goesOn, w) := (w.disarm id).spend.enter (·.onSignal attempt signal)
  if goesOn then w.setTask id (.delivery attempt link .looking) else w.endDelivery id link

/-- Wakes a delivery up at the time that a service was due. -/
def onTimer (w : World) (id : TaskId) (attempt : Nat) (link : TransportId) : World :=
  let ((), w) := (w.disarm id).spend.enter fun r => ((), r.onTimer attempt)
  w.setTask id (.delivery attempt link .looking)

/-- How many signals and services a delivery may attend to in one turn. -/
def allowance : Nat := 128

/-- A delivery that waits takes a signal if there is one, and otherwise looks at the time. One that
has used up its allowance does neither before the other tasks have had a turn. -/
def wait (w : World) (id : TaskId) (attempt : Nat) (link : TransportId) (due : Option Nat) :
    World :=
  if w.spent = allowance then w.standBack id
  else
    match (w.links[link]?).bind Link.next? with
    | some (signal, l) =>
      { w with links := w.links.set! link l }.onSignal id attempt link signal
    | none =>
      match due with
      | none => w.rest id
      | some time => if time ≤ w.now then w.onTimer id attempt link else w.restUntil id time

def turn (w : World) : World :=
  match w.ready with
  | [] => w
  | id :: _ =>
    match w.tasks[id]? with
    | some .connect => w.startConnect id
    | some (.dial attempt plan) => w.endConnect id attempt plan
    | some (.delivery attempt link .looking) => w.look id attempt link
    | some (.delivery attempt link (.waiting due)) => w.wait id attempt link due
    | some .over | none => w.rest id

/-- More steps than any task could want at one instant. -/
def turnLimit : Nat := 1000000000

def settleUpTo : Nat → World → World
  | 0, w => w
  | steps + 1, w => if w.ready.isEmpty then w else settleUpTo steps w.turn

/-- Lets the tasks go on until none has anything to do. -/
def settle (w : World) : World := settleUpTo turnLimit w

def nextAlarm (w : World) : Option Nat := (w.alarms.map Alarm.due).min?

def setClock (w : World) (time : Nat) : World :=
  let (due, alarms) := w.alarms.partition (·.due ≤ time)
  due.foldl (fun w alarm => w.wake alarm.task) { w with now := time, alarms := alarms }

/-- Goes from alarm to alarm before a time; each is later than the one before. -/
def passAlarms : Nat → World → Nat → World
  | 0, w, _ => w
  | jumps + 1, w, time =>
    let w := w.settle
    match w.nextAlarm with
    | none => w
    | some alarm => if alarm < time then passAlarms jumps (w.setClock alarm) time else w

/-- Lets a number of milliseconds pass. The tasks that are due at the end are woken, no more. -/
def sleep (w : World) (ms : Nat) : World :=
  if ms = 0 then w
  else (passAlarms (ms + 1) w (w.now + ms)).setClock (w.now + ms)

end Mqtt.World
