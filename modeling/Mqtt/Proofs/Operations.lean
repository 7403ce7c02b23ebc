import Mathlib.Data.List.Nodup
import Mqtt.Proofs.Transitions

/-!
# The operation under an identifier

`Inflight.operation?` looks an identifier up in all three collections at once. In an orderly record,
where no identifier stands in two of them, it says all about what is pending.
-/

namespace Mqtt

/-- The identifier of an operation that an event reports as over. -/
def Event.settled? : Event → Option UInt16
  | publishComplete id | unsubscribeComplete id => some id
  | subscribeComplete packet => some packet.packetId
  | operationAbandoned operation => some operation.packetId
  | connectionSuccess _ | connectionFailure _ | publishSent _ | publishReceived _ | pingResponse
  | connectionClosed => none

/-- Whether an event reports that this very operation is over. -/
def Event.Settles : Event → Abandoned → Prop
  | publishComplete id, .publish packet => packet.packetId = id
  | subscribeComplete packet, .subscribe id => packet.packetId = id
  | unsubscribeComplete id, .unsubscribe id' => id' = id
  | operationAbandoned operation, operation' => operation' = operation
  | _, _ => False

namespace Inflight

def operation? (f : Inflight) (id : UInt16) : Option Abandoned :=
  match f.publishes[id]? with
  | some pending => some (.publish pending.packet)
  | none =>
    if id ∈ f.subscribes then some (.subscribe id)
    else if id ∈ f.unsubscribes then some (.unsubscribe id)
    else none

/-- No identifier stands for two operations, and each publish stands under its own, in a phase that
suits its level of service. -/
structure Orderly (f : Inflight) : Prop where
  packetId_eq : ∀ (id : UInt16) (pending : PendingPublish),
    f.publishes[id]? = some pending → pending.packet.packetId = id
  qos_ne : ∀ (id : UInt16) (pending : PendingPublish),
    f.publishes[id]? = some pending → pending.packet.qos ≠ .atMostOnce
  phase_iff : ∀ (id : UInt16) (pending : PendingPublish), f.publishes[id]? = some pending →
    (pending.phase = .awaitingAck ↔ pending.packet.qos = .atLeastOnce)
  not_mem_subscribes : ∀ id ∈ f.publishes, id ∉ f.subscribes
  not_mem_unsubscribes : ∀ id ∈ f.publishes, id ∉ f.unsubscribes
  disjoint : ∀ id ∈ f.subscribes, id ∉ f.unsubscribes

theorem mem_publishes_iff (f : Inflight) (id : UInt16) :
    id ∈ f.publishes ↔ ∃ pending, f.publishes[id]? = some pending := by
  rw [Std.ExtTreeMap.mem_iff_isSome_getElem?, Option.isSome_iff_exists]

theorem operation?_congr {f g : Inflight} {id : UInt16}
    (hp : g.publishes[id]? = f.publishes[id]?) (hs : id ∈ g.subscribes ↔ id ∈ f.subscribes)
    (hu : id ∈ g.unsubscribes ↔ id ∈ f.unsubscribes) : g.operation? id = f.operation? id := by
  simp only [operation?, hp, hs, hu]

theorem operation?_of_publish {f : Inflight} {id : UInt16} {pending : PendingPublish}
    (h : f.publishes[id]? = some pending) : f.operation? id = some (.publish pending.packet) := by
  simp only [operation?, h]

theorem operation?_of_not_mem {f : Inflight} {id : UInt16} (h : id ∉ f.publishes) :
    f.operation? id = if id ∈ f.subscribes then some (.subscribe id)
      else if id ∈ f.unsubscribes then some (.unsubscribe id) else none := by
  simp only [operation?, Std.ExtTreeMap.getElem?_eq_none h]

theorem operation?_eq_none_iff (f : Inflight) (id : UInt16) :
    f.operation? id = none ↔ id ∉ f.publishes ∧ id ∉ f.subscribes ∧ id ∉ f.unsubscribes := by
  by_cases hp : id ∈ f.publishes
  · obtain ⟨pending, h⟩ := (f.mem_publishes_iff id).mp hp
    simp [operation?_of_publish h, hp]
  · rw [operation?_of_not_mem hp]
    by_cases hs : id ∈ f.subscribes
    · simp [hs]
    · by_cases hu : id ∈ f.unsubscribes
      · simp [hs, hu]
      · simp [hp, hs, hu]

theorem isSome_operation?_iff (f : Inflight) (id : UInt16) :
    (f.operation? id).isSome ↔ id ∈ f.publishes ∨ id ∈ f.subscribes ∨ id ∈ f.unsubscribes := by
  rw [← not_iff_not, Bool.not_eq_true, Option.isSome_eq_false_iff, Option.isNone_iff_eq_none,
    operation?_eq_none_iff]
  tauto

theorem operation?_empty (held : Std.ExtTreeMap UInt16 Publish compare) (id : UInt16) :
    operation? { held := held } id = none := by
  rw [operation?_eq_none_iff]
  simp

theorem orderly_empty (held : Std.ExtTreeMap UInt16 Publish compare) :
    Orderly { held := held } := by
  refine ⟨?_, ?_, ?_, ?_, ?_, ?_⟩
  · intro id pending hl
    simp at hl
  · intro id pending hl
    simp at hl
  · intro id pending hl
    simp at hl
  · intro id hid
    simp at hid
  · intro id hid
    simp at hid
  · intro id hid
    simp at hid

theorem operation?_insert (f : Inflight) (a : UInt16) (pending : PendingPublish) (id : UInt16) :
    operation? { f with publishes := f.publishes.insert a pending } id =
      if id = a then some (.publish pending.packet) else f.operation? id := by
  by_cases h : id = a
  · subst h
    rw [if_pos rfl]
    exact operation?_of_publish (f := { f with publishes := f.publishes.insert id pending })
      Std.ExtTreeMap.getElem?_insert_self
  · have h' : a ≠ id := fun he => h he.symm
    rw [if_neg h]
    apply operation?_congr
    · simp [Std.ExtTreeMap.getElem?_insert, h']
    · rfl
    · rfl

theorem operation?_trackSubscribe {f : Inflight} {a : UInt16} (ha : f.operation? a = none)
    (id : UInt16) : (f.trackSubscribe a).operation? id =
      if id = a then some (.subscribe a) else f.operation? id := by
  obtain ⟨hp, -, -⟩ := (f.operation?_eq_none_iff a).mp ha
  by_cases h : id = a
  · subst h
    rw [operation?_of_not_mem (f := f.trackSubscribe id) hp]
    simp [trackSubscribe]
  · have h' : a ≠ id := fun he => h he.symm
    rw [if_neg h]
    apply operation?_congr
    · rfl
    · simp [trackSubscribe, h']
    · rfl

theorem operation?_trackUnsubscribe {f : Inflight} {a : UInt16} (ha : f.operation? a = none)
    (id : UInt16) : (f.trackUnsubscribe a).operation? id =
      if id = a then some (.unsubscribe a) else f.operation? id := by
  obtain ⟨hp, hs, -⟩ := (f.operation?_eq_none_iff a).mp ha
  by_cases h : id = a
  · subst h
    rw [operation?_of_not_mem (f := f.trackUnsubscribe id) hp]
    simp [trackUnsubscribe, hs]
  · have h' : a ≠ id := fun he => h he.symm
    rw [if_neg h]
    apply operation?_congr
    · rfl
    · rfl
    · simp [trackUnsubscribe, h']

theorem completePublish_some {f g : Inflight} {a : UInt16} {phase : Phase}
    (hg : f.completePublish a phase = some g) :
    ∃ pending, f.publishes[a]? = some pending ∧ pending.phase = phase ∧
      g = { f with publishes := f.publishes.erase a } := by
  unfold completePublish at hg
  split at hg
  · next pending hl =>
    split_ifs at hg with hp
    exact ⟨pending, hl, hp, (Option.some.inj hg).symm⟩
  · cases hg

namespace Orderly

variable {f : Inflight} (h : f.Orderly)
include h

theorem packetId_operation? {id : UInt16} {operation : Abandoned}
    (ho : f.operation? id = some operation) : operation.packetId = id := by
  by_cases hp : id ∈ f.publishes
  · obtain ⟨pending, hpending⟩ := (f.mem_publishes_iff id).mp hp
    rw [operation?_of_publish hpending] at ho
    cases ho
    exact h.packetId_eq id pending hpending
  · rw [operation?_of_not_mem hp] at ho
    split_ifs at ho with hs hu
    · cases ho
      rfl
    · cases ho
      rfl

end Orderly

end Inflight
end Mqtt
