import Mqtt.Client.Interleaving

/-!
# Waiting for a deadline

A scene with a clock. Each delivery goes round its loop: it looks, arms a timer for the service that
is due, or none, and then waits for a signal or for the timer. A timer whose time has come by then
goes off at once, so that a delivery comes to rest in its wait with a timer that is still to go off.
Anything may happen between these steps, and the clock may go on at any time, also past a timer
that has not been heard yet.
-/

namespace Mqtt

/-- Where a delivery stands in its loop. -/
inductive Post
  | looking
  /-- It has armed its timer and asks what there is to wait for. -/
  | polling (timer : Option Int)
  /-- There was nothing, and it rests. -/
  | parked (timer : Option Int)
  deriving DecidableEq

def Post.timer? : Post → Option Int
  | looking => none
  | polling timer | parked timer => timer

structure Vigil where
  scene : Scene
  clock : Int
  post : Nat → Post := fun _ => .looking

namespace Vigil

inductive Step
  | advance (time : Int)
  | park (attempt : Nat)
  | act (activity : Activity) (freshId : String) (fault : TransportId → Option Error)

def start (options : ClientOptions) (clock : Int) : Vigil where
  scene := .start options
  clock := clock

def session (v : Vigil) : Session := v.scene.client.session

def elapsed (v : Vigil) (timer : Option Int) : Bool := timer.any (· ≤ v.clock)

def setPost (v : Vigil) (attempt : Nat) (post : Post) : Vigil :=
  { v with post := fun k => if k = attempt then post else v.post k }

/-- Whether the delivery that an activity belongs to, if any, stands where it can go on with it. -/
def awaits (v : Vigil) : Activity → Bool
  | .look attempt => v.post attempt = .looking
  | .signal attempt _ => v.post attempt ≠ .looking
  | .timer attempt => v.elapsed (v.post attempt).timer?
  | .call _ | .beginConnect | .finishConnect _ _ => true

/-- Where an activity leaves the delivery that it belongs to. A timer is never set to go off in the
past. -/
def leave (v : Vigil) (r : Round) : Activity → Vigil
  | .look attempt =>
    match (r.look attempt).1 with
    | some due => v.setPost attempt (.polling (due.map (max v.clock)))
    | none => v
  | .signal attempt _ | .timer attempt | .finishConnect attempt _ => v.setPost attempt .looking
  | .call _ | .beginConnect => v

def env (v : Vigil) (freshId : String) (fault : TransportId → Option Error) : Env :=
  ⟨v.clock, freshId, fault⟩

/-- The round of an activity that takes place now. -/
def round (v : Vigil) (freshId : String) (fault : TransportId → Option Error) : Round :=
  v.scene.client.roundIn (v.env freshId fault)

def step (v : Vigil) : Step → Vigil
  | .advance time => if v.clock ≤ time then { v with clock := time } else v
  | .park attempt =>
    match v.post attempt with
    | .polling timer => if v.elapsed timer then v else v.setPost attempt (.parked timer)
    | .looking | .parked _ => v
  | .act activity freshId fault =>
    if v.scene.admits activity && v.awaits activity then
      { v.leave (v.round freshId fault) activity with
        scene := v.scene.step ⟨activity, v.env freshId fault⟩ }
    else v

def run (v : Vigil) (steps : List Step) : Vigil := steps.foldl step v

end Vigil

end Mqtt
