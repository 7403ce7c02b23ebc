import Mqtt.PacketIds
import Mqtt.Client.Handlers

/-!
# Many at once

What a tester asks of identifiers and handlers in bulk.
-/

namespace Mqtt

namespace PacketIds

/-- Hands out up to so many identifiers after those taken, last first, and stops when none is free;
tells whether it got all of them. -/
def acquireMany (ids : PacketIds) (n : Nat) (taken : List UInt16) :
    List UInt16 × Bool × PacketIds :=
  match n with
  | 0 => (taken.reverse, true, ids)
  | n + 1 =>
    match ids.acquire with
    | (some id, ids) => acquireMany ids n (id :: taken)
    | (none, ids) => (taken.reverse, false, ids)

/-- Frees so many identifiers from the first one on; adds those that were bound to a count. -/
def releaseRange (ids : PacketIds) (first : UInt16) (n count : Nat) : Nat × PacketIds :=
  match n with
  | 0 => (count, ids)
  | n + 1 =>
    releaseRange (ids.release first) (first + 1) n
      (if ids.isBound first then count + 1 else count)

/-- Hands out an identifier and frees it at once, so many times; the last one, and whether
every turn found one. -/
def cycle (ids : PacketIds) (n : Nat) (last : Option UInt16) :
    Option UInt16 × Bool × PacketIds :=
  match n with
  | 0 => (last, true, ids)
  | n + 1 =>
    match ids.acquire with
    | (some id, ids) => cycle (ids.release id) n (some id)
    | (none, ids) => (last, false, ids)

end PacketIds

/-- One handler for every kind of event. -/
def Handlers.replicate {α : Type} (h : α) : Handlers α := EventKind.all.foldl (·.insert · h) {}

end Mqtt
