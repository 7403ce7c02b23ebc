import Mqtt.Client.Dispatch

/-!
# Delivery

Each connection has a task of its own, which brings what the transport reads to the session and
wakes up when the session may have to ping. The task is a loop: it looks whether its attempt is
still the current one and when a service is due, and then waits for a signal or for that time. It
ends when the attempt is no longer current, or when the signals end.
-/

namespace Mqtt

inductive Signal
  | packet (packet : Packet)
  | closed
  deriving DecidableEq

namespace Round

/-- The head of the loop: when a service is due, or nothing if the loop ends. -/
def look (r : Round) (attempt : Nat) : Option (Option Int) × Round :=
  let r := r.note .deliveryLoop
  if r.client.session.isCurrent attempt then
    let (due, r) := r.nextService
    (some (due.toOption.getD none), r.settle)
  else (none, (r.settle.note (.deliveryOutdated attempt)).note (.deliveryFinished attempt))

/-- Delivers a signal, and tells whether the loop goes on. -/
def onSignal (r : Round) (attempt : Nat) : Signal → Bool × Round
  | .packet packet =>
    (true, ((r.note (.packetDelivered attempt)).report attempt (.received packet)).2.settle)
  | .closed =>
    (false, (((r.note (.channelClosed attempt)).report attempt .closed).2.settle).note
      (.deliveryFinished attempt))

/-- Wakes up at the time that a service was due. -/
def onTimer (r : Round) (attempt : Nat) : Round :=
  let r := r.note .servicing
  (if r.client.session.isCurrent attempt then r.service.2 else r).settle

end Round

end Mqtt
