import Std.Data.ExtTreeSet

/-!
# Packet identifiers

Identifiers go round 1, 2, …, 65535, 1, … and are never 0. One that is handed out stays bound until
it is released, and the round passes over bound ones. When a whole round finds none free, nothing
is handed out and the pool is as before.
-/

namespace Mqtt

/-- Bound identifiers, and the one that the next search starts from. -/
structure PacketIds where
  next : UInt16 := 1
  bound : Std.ExtTreeSet UInt16 compare := ∅

namespace PacketIds

/-- The identifier after this one on the round. -/
def successor (id : UInt16) : UInt16 := if id = 65535 then 1 else id + 1

def total : Nat := 65535

/-- Looks at one identifier after the other, for at most so many, until one is free or the round
is back at its start. -/
def search (start : UInt16) : Nat → PacketIds → Option UInt16 × PacketIds
  | 0, ids => (none, ids)
  | steps + 1, ids =>
    let following := successor ids.next
    if ids.bound.contains ids.next then
      if following = start then (none, { ids with next := following })
      else search start steps { ids with next := following }
    else (some ids.next, { next := following, bound := ids.bound.insert ids.next })

def acquire (ids : PacketIds) : Option UInt16 × PacketIds := search ids.next total ids

def isBound (ids : PacketIds) (id : UInt16) : Bool := ids.bound.contains id

/-- Frees one identifier, which may not be bound at all. -/
def release (ids : PacketIds) (id : UInt16) : PacketIds :=
  { ids with bound := ids.bound.erase id }

def releaseAll (ids : PacketIds) : PacketIds := { ids with bound := ∅ }

def count (ids : PacketIds) : Nat := ids.bound.size

@[simp] theorem isBound_empty (id : UInt16) : ({} : PacketIds).isBound id = false := by
  simp [isBound]

@[simp] theorem isBound_release (ids : PacketIds) (a b : UInt16) :
    (ids.release a).isBound b = (decide (a ≠ b) && ids.isBound b) := by
  by_cases h : a = b <;> simp [isBound, release, Std.ExtTreeSet.contains_erase, h]

@[simp] theorem isBound_releaseAll (ids : PacketIds) (id : UInt16) :
    ids.releaseAll.isBound id = false := by
  simp [isBound, releaseAll]

end PacketIds

end Mqtt
