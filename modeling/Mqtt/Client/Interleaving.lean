import Mqtt.Client.Activity

/-!
# Everything at once

Several connect calls may wait for their connectors at the same time, next to deliveries of old and
new connections, while the application goes on to make calls. On one thread all this is a sequence
of activities. A scene tells which of them can come next: a connect call goes on when its connector
comes back, with a transport of its own or with an error; a delivery takes its steps until it ends,
in whatever order. Calls are possible at any time.
-/

namespace Mqtt

/-- An activity that took place, with the client that it found. -/
structure Deed where
  before : Client
  occasion : Occasion

namespace Deed

def start (d : Deed) : Round := d.before.roundIn d.occasion.env

def round (d : Deed) : Round := d.before.perform d.occasion

end Deed

structure Scene where
  client : Client
  /-- The attempts whose connect calls wait for their connectors. -/
  dials : List Nat := []
  /-- The attempts for which there is a delivery. -/
  deliveries : List Nat := []
  /-- The transports that connectors have yielded. -/
  transports : List TransportId := []
  past : List Deed := []

namespace Scene

def start (options : ClientOptions) : Scene where
  client := .new options

def admits (s : Scene) : Activity → Bool
  | .call _ | .beginConnect => true
  | .finishConnect attempt (.ok transport) => attempt ∈ s.dials ∧ transport ∉ s.transports
  | .finishConnect attempt (.error _) => attempt ∈ s.dials
  | .look attempt | .signal attempt _ | .timer attempt => attempt ∈ s.deliveries

def endDelivery (s : Scene) (attempt : Nat) : Scene :=
  { s with deliveries := s.deliveries.filter (· ≠ attempt) }

/-- What waits and what is being delivered after an activity. -/
def arrange (s : Scene) (r : Round) : Activity → Scene
  | .call _ | .timer _ => s
  | .beginConnect =>
    match r.beginConnect.1 with
    | .ok attempt => { s with dials := s.dials ++ [attempt] }
    | .error _ => s
  | .finishConnect attempt outcome =>
    let s := { s with
      dials := s.dials.filter (· ≠ attempt)
      transports := s.transports ++ outcome.toOption.toList }
    match (r.finishConnect attempt outcome).1 with
    | .ok () => { s with deliveries := s.deliveries ++ [attempt] }
    | .error _ => s
  | .look attempt => if (r.look attempt).1.isSome then s else s.endDelivery attempt
  | .signal attempt received =>
    if (r.onSignal attempt received).1 then s else s.endDelivery attempt

/-- Lets an activity take place, if it can. -/
def step (s : Scene) (o : Occasion) : Scene :=
  if s.admits o.activity then
    { s.arrange (s.client.roundIn o.env) o.activity with
      client := (s.client.perform o).client
      past := s.past ++ [⟨s.client, o⟩] }
  else s

def run (s : Scene) (os : List Occasion) : Scene := os.foldl step s

end Scene

end Mqtt
