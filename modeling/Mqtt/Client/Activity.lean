import Mqtt.Client.Connect
import Mqtt.Client.Delivery

/-!
# Activities

All that a client does, as one type: what the application calls without waiting, the halves of
connect calls, and the steps of deliveries. Whatever happens around a client, it goes through one
activity after the other.
-/

namespace Mqtt

inductive Activity
  | call (call : Call)
  | beginConnect
  | finishConnect (attempt : Nat) (outcome : Except Error TransportId)
  | look (attempt : Nat)
  | signal (attempt : Nat) (received : Signal)
  | timer (attempt : Nat)

namespace Activity

/-- What an activity does before the events that it leads to are dispatched. -/
def begin (r : Round) : Activity → Round
  | call c => (r.make c).2
  | beginConnect => r.startConnect.2
  | finishConnect attempt (.ok transport) =>
    ((r.note (.dialed attempt)).report attempt (.opened transport)).2
  | finishConnect attempt (.error e) =>
    ((r.note (.dialFailed attempt e)).report attempt (.failed e)).2
  | look attempt =>
    let r := r.note .deliveryLoop
    if r.client.session.isCurrent attempt then r.nextService.2 else r
  | signal attempt (.packet packet) =>
    ((r.note (.packetDelivered attempt)).report attempt (.received packet)).2
  | signal attempt .closed => ((r.note (.channelClosed attempt)).report attempt .closed).2
  | timer attempt =>
    let r := r.note .servicing
    if r.client.session.isCurrent attempt then r.service.2 else r

def perform (r : Round) : Activity → Round
  | call c => (r.call c).2
  | beginConnect => r.beginConnect.2
  | finishConnect attempt outcome => (r.finishConnect attempt outcome).2
  | look attempt => (r.look attempt).2
  | signal attempt received => (r.onSignal attempt received).2
  | timer attempt => r.onTimer attempt

/-- An activity ends with the dispatch of the events that wait, and notes at most. -/
theorem perform_eq (a : Activity) (r : Round) :
    ∃ log, a.perform r = { (a.begin r).settle with log := log } := by
  cases a with
  | call c => exact ⟨(begin r (call c)).settle.log, rfl⟩
  | beginConnect =>
    cases h : r.startConnect with
    | mk result u =>
      cases result <;> simp only [perform, begin, Round.beginConnect, h] <;> exact ⟨_, rfl⟩
  | finishConnect attempt outcome =>
    cases outcome with
    | ok transport => exact ⟨(begin r (finishConnect attempt (.ok transport))).settle.log, rfl⟩
    | error e => exact ⟨(begin r (finishConnect attempt (.error e))).settle.log, rfl⟩
  | look attempt =>
    by_cases h : (r.note .deliveryLoop).client.session.isCurrent attempt = true
    · simp only [perform, begin, Round.look, if_pos h]
      exact ⟨_, rfl⟩
    · simp only [perform, begin, Round.look, if_neg h]
      exact ⟨_, rfl⟩
  | signal attempt received =>
    cases received with
    | packet packet => exact ⟨(begin r (signal attempt (.packet packet))).settle.log, rfl⟩
    | closed => exact ⟨_, rfl⟩
  | timer attempt => exact ⟨(begin r (timer attempt)).settle.log, rfl⟩

end Activity

/-- An activity, and what the client finds around it. -/
structure Occasion where
  activity : Activity
  env : Env

namespace Client

def roundIn (c : Client) (env : Env) : Round := { client := c, env := env }

def perform (c : Client) (o : Occasion) : Round := o.activity.perform (c.roundIn o.env)

/-- The client that some occasions lead to. -/
def run (c : Client) : List Occasion → Client
  | [] => c
  | o :: os => (c.perform o).client.run os

theorem run_append (c : Client) (os os' : List Occasion) :
    c.run (os ++ os') = (c.run os).run os' := by
  induction os generalizing c with
  | nil => rfl
  | cons o os ih => exact ih _

end Client

end Mqtt
