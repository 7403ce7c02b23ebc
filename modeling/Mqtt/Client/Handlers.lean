import Mqtt.Event

/-!
# Handlers

One optional handler for each kind of event. What a handler is stays open here; it is given a
notice, which is the content of an event without its kind.
-/

namespace Mqtt

inductive Notice
  /-- How a connection attempt ended: with the server's acceptance, or not. -/
  | connectResult (result : Except Error Connack)
  | packetId (id : UInt16)
  | message (packet : Publish)
  | granted (packet : Suback)
  | abandoned (operation : Abandoned)
  | bare

structure Handlers (α : Type) where
  connectResult : Option α := none
  publishSent : Option α := none
  publishComplete : Option α := none
  publishReceived : Option α := none
  subscribeComplete : Option α := none
  unsubscribeComplete : Option α := none
  pingResponse : Option α := none
  connectionClosed : Option α := none
  operationAbandoned : Option α := none

namespace Handlers

variable {α : Type}

def get? (t : Handlers α) : EventKind → Option α
  | .connectResult => t.connectResult
  | .publishSent => t.publishSent
  | .publishComplete => t.publishComplete
  | .publishReceived => t.publishReceived
  | .subscribeComplete => t.subscribeComplete
  | .unsubscribeComplete => t.unsubscribeComplete
  | .pingResponse => t.pingResponse
  | .connectionClosed => t.connectionClosed
  | .operationAbandoned => t.operationAbandoned

/-- Registers a handler in place of the one before. -/
def insert (t : Handlers α) (kind : EventKind) (h : α) : Handlers α :=
  match kind with
  | .connectResult => { t with connectResult := some h }
  | .publishSent => { t with publishSent := some h }
  | .publishComplete => { t with publishComplete := some h }
  | .publishReceived => { t with publishReceived := some h }
  | .subscribeComplete => { t with subscribeComplete := some h }
  | .unsubscribeComplete => { t with unsubscribeComplete := some h }
  | .pingResponse => { t with pingResponse := some h }
  | .connectionClosed => { t with connectionClosed := some h }
  | .operationAbandoned => { t with operationAbandoned := some h }

def erase (t : Handlers α) (kind : EventKind) : Handlers α :=
  match kind with
  | .connectResult => { t with connectResult := none }
  | .publishSent => { t with publishSent := none }
  | .publishComplete => { t with publishComplete := none }
  | .publishReceived => { t with publishReceived := none }
  | .subscribeComplete => { t with subscribeComplete := none }
  | .unsubscribeComplete => { t with unsubscribeComplete := none }
  | .pingResponse => { t with pingResponse := none }
  | .connectionClosed => { t with connectionClosed := none }
  | .operationAbandoned => { t with operationAbandoned := none }

/-- The handler that an event goes to, and what it is told. -/
def dispatch (t : Handlers α) : Event → Option (α × Notice)
  | .connectionSuccess connack => t.connectResult.map (·, .connectResult (.ok connack))
  | .connectionFailure error => t.connectResult.map (·, .connectResult (.error error))
  | .publishSent id => t.publishSent.map (·, .packetId id)
  | .publishComplete id => t.publishComplete.map (·, .packetId id)
  | .publishReceived packet => t.publishReceived.map (·, .message packet)
  | .subscribeComplete suback => t.subscribeComplete.map (·, .granted suback)
  | .unsubscribeComplete id => t.unsubscribeComplete.map (·, .packetId id)
  | .pingResponse => t.pingResponse.map (·, .bare)
  | .connectionClosed => t.connectionClosed.map (·, .bare)
  | .operationAbandoned operation => t.operationAbandoned.map (·, .abandoned operation)

/-- A figure of the handlers, added up. -/
def total (t : Handlers α) (f : α → Nat) : Nat :=
  EventKind.all.foldr (fun kind n => (t.get? kind).elim 0 f + n) 0

@[simp] theorem get?_insert_self (t : Handlers α) (kind : EventKind) (h : α) :
    (t.insert kind h).get? kind = some h := by
  cases kind <;> rfl

@[simp] theorem get?_insert_of_ne (t : Handlers α) (h : α) {k l : EventKind} (hne : k ≠ l) :
    (t.insert k h).get? l = t.get? l := by
  cases k <;> cases l <;> simp_all [insert, get?]

theorem total_insert (t : Handlers α) (f : α → Nat) (kind : EventKind) (h : α) :
    (t.insert kind h).total f + (t.get? kind).elim 0 f = t.total f + f h := by
  cases kind <;> simp [total, EventKind.all, get?, insert] <;> omega

theorem total_erase (t : Handlers α) (f : α → Nat) (kind : EventKind) :
    (t.erase kind).total f + (t.get? kind).elim 0 f = t.total f := by
  cases kind <;> simp [total, EventKind.all, get?, erase] <;> omega

/-- An event goes to a handler of its kind. -/
theorem get?_of_dispatch {t : Handlers α} {e : Event} {h : α} {notice : Notice}
    (hd : t.dispatch e = some (h, notice)) : t.get? e.kind = some h := by
  cases e <;> obtain ⟨_, hget, heq⟩ := Option.map_eq_some_iff.1 hd <;> cases heq <;> exact hget

end Handlers

end Mqtt
