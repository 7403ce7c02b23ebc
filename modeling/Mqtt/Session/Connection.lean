import Mqtt.Session.Inbound

/-!
# Connection attempts

An attempt begins while there is no connection and gets the next number. What the network reports
later names the attempt that it belongs to; a report on any other than the latest is stale, and does
nothing but close the transport that it may carry.
-/

namespace Mqtt

/-- What the network has to report on a connection attempt. -/
inductive Report
  | opened (transport : TransportId)
  | failed (error : Error)
  | received (packet : Packet)
  | closed
  deriving DecidableEq

namespace Turn

/-- Takes on a generated client identifier, if none was chosen and generating is wanted. -/
def chooseClientId (t : Turn) (generated : String) : Turn :=
  if t.session.clientId.isEmpty && t.session.options.generateClientId then
    let t := { t with session := { t.session with clientId := generated } }
    t.note (.clientIdGenerated generated)
  else t

def startConnect (t : Turn) (generated : String) : Reply Nat :=
  if t.session.status ≠ .disconnected then
    (t.note (.connectNotAllowed t.session.status)).fail (.connectNotAllowed t.session.status)
  else
    let t := t.chooseClientId generated
    let t := { t with session := { t.session with attempt := t.session.attempt + 1 } }
    ⟨.ok t.session.attempt, t.setStatus .connecting⟩

/-- A report on an attempt that another has replaced. -/
def onStaleReport (t : Turn) (attempt : Nat) (report : Report) : Reply Unit :=
  match report with
  | .opened transport =>
    ((t.note (.attemptSuperseded attempt)).discard transport).fail
      (.attemptCancelled t.session.status)
  | _ => (t.note (.staleReport attempt)).done

/-- A transport stands ready: it is installed, and the CONNECT goes out. -/
def onOpened (t : Turn) (transport : TransportId) : Reply Unit :=
  if t.session.status ≠ .connecting then
    ((t.note .openedTooLate).discard transport).fail (.attemptCancelled t.session.status)
  else
    let t := (t.note .opened).dropHeldIfClean
    let t := { t with session := { t.session with transport := some transport } }
    t.send (.connect (t.session.options.connectPacket t.session.clientId))

def onFailed (t : Turn) (error : Error) : Turn :=
  if t.session.status ≠ .connecting then t.note .failedTooLate
  else ((t.note (.failed error)).setStatus .disconnected).emit (.connectionFailure error)

def onClosed (t : Turn) : Turn :=
  if t.session.status = .disconnected then t.note .closedTooLate
  else (t.note (.closed t.session.status)).endConnection .closedBeforeAccepted

def onReport (t : Turn) (report : Report) : Reply Unit :=
  match report with
  | .opened transport => t.onOpened transport
  | .failed error => (t.onFailed error).done
  | .received packet => t.receive packet
  | .closed => t.onClosed.done

end Turn

/-- Ends an operation with a snapshot and its result in the log. -/
def Reply.summarize {α : Type} (r : Reply α) (note : Except Error α → SessionNote) : Reply α :=
  { r with turn := (r.turn.record (.snapshot r.turn.session.snapshot)).note (note r.result) }

def Turn.report (t : Turn) (attempt : Nat) (report : Report) : Reply Unit :=
  (if attempt ≠ t.session.attempt then t.onStaleReport attempt report
    else t.onReport report).summarize .reportHandled

end Mqtt
