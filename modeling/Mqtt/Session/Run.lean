import Mqtt.Session.Request

/-!
# Operations of a session

All that can be asked of a session, as one type of inputs and one step. A step is taken at a time,
and with the answer that the transport will give to a write; an operation writes at most once.
-/

namespace Mqtt

namespace Turn

/-- Pings if it is time to. -/
def service (t : Turn) : Reply Unit :=
  if t.session.status = .connected ∧ t.session.keepAlive.isDue t.session.now then
    let r := (t.note .pingDue).send .pingreq
    match r.result with
    | .ok () => r
    | .error e => ⟨.error e, r.turn.note (.serviceFailed e)⟩
  else t.done

/-- Tells when a service is needed next. -/
def nextService (t : Turn) : Reply (Option Int) :=
  let due := if t.session.status = .connected then t.session.keepAlive.nextPing else none
  ⟨.ok due, t.note (.nextService t.session.status (due.map Session.elapsedMs))⟩

end Turn

namespace Session

/-- Begins a connection attempt; the identifier is used if one has to be generated. -/
def startConnect (s : Session) (generated : String) (now : Int) : Reply Nat :=
  (Turn.start s now none).startConnect generated

def report (s : Session) (attempt : Nat) (report : Report) (now : Int) (fault : Option Error) :
    Reply Unit :=
  (Turn.start s now fault).report attempt report

def request (s : Session) (request : Request) (now : Int) (fault : Option Error) :
    Reply (Option UInt16) :=
  (Turn.start s now fault).request request

def service (s : Session) (now : Int) (fault : Option Error) : Reply Unit :=
  (Turn.start s now fault).service

def nextService (s : Session) (now : Int) : Reply (Option Int) :=
  (Turn.start s now none).nextService

inductive Input
  | startConnect (generated : String)
  | report (attempt : Nat) (report : Report)
  | request (request : Request)
  | service
  | nextService
  deriving DecidableEq

inductive Output
  | attempt (number : Nat)
  | done
  | packetId (id : Option UInt16)
  | due (time : Option Int)
  deriving DecidableEq

end Session

def Reply.map {α β : Type} (f : α → β) (r : Reply α) : Reply β := ⟨r.result.map f, r.turn⟩

def Session.step (s : Session) (input : Session.Input) (now : Int) (fault : Option Error) :
    Reply Session.Output :=
  match input with
  | .startConnect generated => (s.startConnect generated now).map .attempt
  | .report attempt report => (s.report attempt report now fault).map fun _ => .done
  | .request request => (s.request request now fault).map .packetId
  | .service => (s.service now fault).map fun _ => .done
  | .nextService => (s.nextService now).map .due

end Mqtt
