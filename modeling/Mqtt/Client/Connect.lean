import Mqtt.Client.Dispatch

/-!
# Connecting

A connect call has two halves, with the wait for a connector in between. The first begins an attempt
in the session, or is refused; the second reports to the session what the connector came back with.
Other calls may come between the halves, and even other attempts.
-/

namespace Mqtt.Round

def beginConnect (r : Round) : Except Error Nat × Round :=
  let (result, r) := r.startConnect
  let r := r.settle
  match result with
  | .ok attempt =>
    (.ok attempt, r.note (.dialing attempt r.client.options.host r.client.options.port))
  | .error e => (.error e, r)

/-- Ends a connect call with a new transport, or with the error of the connector. -/
def finishConnect (r : Round) (attempt : Nat) (outcome : Except Error TransportId) :
    Except Error Unit × Round :=
  match outcome with
  | .ok transport =>
    let (result, r) := (r.note (.dialed attempt)).report attempt (.opened transport)
    (result, r.settle)
  | .error e =>
    let (result, r) := (r.note (.dialFailed attempt e)).report attempt (.failed e)
    (result.bind fun _ => .error e, r.settle)

end Mqtt.Round
