/-!
# Keep alive

A ping is due once a whole interval has passed since the last write. Times are microseconds from a
fixed start and may lie before it. Without an interval, or before the first write, none is due.
-/

namespace Mqtt

structure KeepAlive where
  /-- The interval in seconds, if pings are wanted. -/
  interval : Option Nat
  lastWrite : Option Int := none
  deriving DecidableEq

namespace KeepAlive

def microsPerSecond : Int := 1000000

/-- The monitor for configured seconds, which zero turns off like `auto = false` does. -/
def ofSeconds (seconds : UInt16) (auto : Bool) : KeepAlive where
  interval := if auto && 0 < seconds then some seconds.toNat else none

def onWrite (k : KeepAlive) (now : Int) : KeepAlive := { k with lastWrite := some now }

def reset (k : KeepAlive) : KeepAlive := { k with lastWrite := none }

def nextPing (k : KeepAlive) : Option Int :=
  match k.interval, k.lastWrite with
  | some seconds, some last => some (last + seconds * microsPerSecond)
  | _, _ => none

def isDue (k : KeepAlive) (now : Int) : Bool :=
  match k.nextPing with
  | some next => next ≤ now
  | none => false

@[simp] theorem nextPing_reset (k : KeepAlive) : k.reset.nextPing = none := by
  simp only [nextPing, reset]
  cases k.interval <;> rfl

@[simp] theorem isDue_reset (k : KeepAlive) (now : Int) : k.reset.isDue now = false := by
  simp [isDue]

@[simp] theorem interval_onWrite (k : KeepAlive) (now : Int) :
    (k.onWrite now).interval = k.interval := rfl

end KeepAlive

end Mqtt
