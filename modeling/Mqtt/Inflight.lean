import Mqtt.Event
import Std.Data.ExtTreeMap
import Std.Data.ExtTreeSet

/-!
# Operations in flight

What the client waits for, by packet identifier: publishes with the phase of their exchange,
subscribes and unsubscribes; and the inbound messages of the highest level of service that it holds
until the server releases them. The identifiers of held messages are the server's, and have nothing
to do with the others.

An acknowledgement that completes or advances something gives the new state, any other `none`.
-/

namespace Mqtt

/-- Where the exchange of a publish stands. -/
inductive Phase
  | awaitingAck
  | awaitingReceipt
  | awaitingCompletion
  deriving DecidableEq, Repr

def Phase.initial : Qos → Phase
  | .exactlyOnce => awaitingReceipt
  | _ => awaitingAck

structure PendingPublish where
  packet : Publish
  phase : Phase
  deriving DecidableEq

structure Inflight where
  publishes : Std.ExtTreeMap UInt16 PendingPublish compare := ∅
  subscribes : Std.ExtTreeSet UInt16 compare := ∅
  unsubscribes : Std.ExtTreeSet UInt16 compare := ∅
  held : Std.ExtTreeMap UInt16 Publish compare := ∅

namespace Inflight

def trackPublish (f : Inflight) (packet : Publish) : Inflight :=
  { f with publishes := f.publishes.insert packet.packetId ⟨packet, .initial packet.qos⟩ }

def trackSubscribe (f : Inflight) (id : UInt16) : Inflight :=
  { f with subscribes := f.subscribes.insert id }

def trackUnsubscribe (f : Inflight) (id : UInt16) : Inflight :=
  { f with unsubscribes := f.unsubscribes.insert id }

def completePublish (f : Inflight) (id : UInt16) (phase : Phase) : Option Inflight :=
  match f.publishes[id]? with
  | some pending =>
    if pending.phase = phase then some { f with publishes := f.publishes.erase id } else none
  | none => none

def onPuback (f : Inflight) (id : UInt16) : Option Inflight := f.completePublish id .awaitingAck

/-- A receipt calls for a release, and calls for it again each time it is repeated. -/
def onPubrec (f : Inflight) (id : UInt16) : Option Inflight :=
  match f.publishes[id]? with
  | some pending =>
    match pending.phase with
    | .awaitingAck => none
    | .awaitingReceipt =>
      some { f with
        publishes := f.publishes.insert id { pending with phase := .awaitingCompletion } }
    | .awaitingCompletion => some f
  | none => none

def onPubcomp (f : Inflight) (id : UInt16) : Option Inflight :=
  f.completePublish id .awaitingCompletion

def onSuback (f : Inflight) (id : UInt16) : Option Inflight :=
  if f.subscribes.contains id then some { f with subscribes := f.subscribes.erase id } else none

def onUnsuback (f : Inflight) (id : UInt16) : Option Inflight :=
  if f.unsubscribes.contains id then some { f with unsubscribes := f.unsubscribes.erase id }
  else none

/-- Holds an inbound message, unless one with its identifier is held already. -/
def hold (f : Inflight) (packet : Publish) : Option Inflight :=
  if f.held.contains packet.packetId then none
  else some { f with held := f.held.insert packet.packetId packet }

def unhold (f : Inflight) (id : UInt16) : Option (Publish × Inflight) :=
  match f.held[id]? with
  | some packet => some (packet, { f with held := f.held.erase id })
  | none => none

def dropHeld (f : Inflight) : Inflight := { f with held := ∅ }

def pendingCount (f : Inflight) : Nat :=
  f.publishes.size + f.subscribes.size + f.unsubscribes.size

def heldCount (f : Inflight) : Nat := f.held.size

/-- All pending operations: publishes, then subscribes, then unsubscribes. -/
def pending (f : Inflight) : List Abandoned :=
  f.publishes.toList.map (fun entry => .publish entry.2.packet) ++
    f.subscribes.toList.map .subscribe ++ f.unsubscribes.toList.map .unsubscribe

/-- Operations in ascending order of identifier; those with equal ones keep their order. -/
def byId (operations : List Abandoned) : List Abandoned :=
  operations.mergeSort fun a b => a.packetId ≤ b.packetId

/-- Gives up everything that waits for an acknowledgement; held messages stay. -/
def abandon (f : Inflight) : List Abandoned × Inflight :=
  (byId f.pending, { f with publishes := ∅, subscribes := ∅, unsubscribes := ∅ })

@[simp] theorem held_abandon (f : Inflight) : f.abandon.2.held = f.held := rfl

@[simp] theorem pendingCount_abandon (f : Inflight) : f.abandon.2.pendingCount = 0 := by
  simp [abandon, pendingCount]

theorem perm_abandon (f : Inflight) : f.abandon.1.Perm f.pending :=
  List.mergeSort_perm _ _

end Inflight

end Mqtt
