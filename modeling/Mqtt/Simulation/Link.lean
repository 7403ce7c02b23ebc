import Mqtt.Client.Delivery
import Mqtt.Simulation.Broker

/-!
# Links

A link is one opened connection with a broker at the far end. What the broker answers, and that the
transport was closed, goes into the client's inbox; so does what a tester injects. The inbox ends
when it is empty and nobody is left who could send to it.
-/

namespace Mqtt

structure ConnectPlan where
  /-- Milliseconds until the connector is done. -/
  delay : Nat := 0
  /-- The message of the connector's error, if it fails. -/
  failure : Option String := none
  failing : Bool := false
  /-- Whether the transport has no way to the inbox. -/
  detached : Bool := false
  broker : Broker := {}
  deriving DecidableEq

inductive Reader
  /-- Nobody does yet. -/
  | none
  | task (number : Nat)
  /-- Nobody will any more. -/
  | gone
  deriving DecidableEq

structure Link where
  broker : Broker
  failing : Bool
  /-- Whether the transport can send to the inbox. -/
  attached : Bool
  /-- Whether the tester can. -/
  held : Bool := true
  reader : Reader := .none
  inbox : List Signal := []
  deriving DecidableEq

namespace Link

def ofPlan (p : ConnectPlan) : Link where
  broker := p.broker
  failing := p.failing
  attached := !p.detached

def fault (l : Link) : Option Error := if l.failing then some .simulated else none

def isRead (l : Link) : Bool := l.reader ≠ .gone

/-- Sends signals to the inbox, where they are lost if nobody will read it. -/
def send (l : Link) (signals : List Signal) : Link :=
  if l.isRead then { l with inbox := l.inbox ++ signals } else l

def absorb (l : Link) : Io → Link
  | .wrote _ packet =>
    if l.attached then l.send ((l.broker.answer packet).toList.map .packet) else l
  | .refused _ _ => l
  | .closed _ => if l.attached then { l.send [.closed] with attached := false } else l

/-- The next signal, if there is one; an inbox that has ended reads as closed. -/
def next? (l : Link) : Option (Signal × Link) :=
  match l.inbox with
  | signal :: rest => some (signal, { l with inbox := rest })
  | [] => if l.attached || l.held then none else some (.closed, l)

def abandon (l : Link) : Link := { l with reader := .gone, inbox := [] }

end Link

end Mqtt
