import Mqtt.Simulation.Bench

/-!
# Errands

What an application does on an accepted connection, in any order, and in between the delivery of
one answer at a time. Every errand is run at a time of its own.
-/

namespace Mqtt

inductive Errand
  | publish (packet : Publish)
  | subscribe (packet : Subscribe)
  | unsubscribe (packet : Unsubscribe)
  | ping
  | service
  /-- The oldest answer that waits is handed to the session, if there is one. -/
  | deliver
  deriving DecidableEq

/-- What an errand asks of a session by itself. -/
def Errand.input? : Errand → Option Session.Input
  | publish packet => some (.request (.publish packet))
  | subscribe packet => some (.request (.subscribe packet))
  | unsubscribe packet => some (.request (.unsubscribe packet))
  | ping => some (.request .ping)
  | service => some .service
  | deliver => none

namespace Bench

def setNow (b : Bench) (now : Int) : Bench := { b with now := now }

def attend (b : Bench) (errand : Errand) (now : Int) : Bench :=
  match errand.input? with
  | some input => ((b.setNow now).perform input).2
  | none => deliverUpTo 1 (b.setNow now)

def attendAll (b : Bench) (errands : List (Errand × Int)) : Bench :=
  errands.foldl (fun b e => b.attend e.1 e.2) b

end Bench

end Mqtt
