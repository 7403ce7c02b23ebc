import Mqtt.Proofs.Operations

/-!
# Steps of an exchange

Each step keeps the record of operations in flight orderly, and says what it does to the operation
under every identifier: tracking adds one under an identifier that stood for nothing, a receipt
changes none, and an acknowledgement that completes something takes one away.
-/

namespace Mqtt.Inflight.Orderly

variable {f : Inflight} (h : f.Orderly)
include h

/-! ### Tracking -/

theorem insert_publish {a : UInt16} (pending : PendingPublish) (hid : pending.packet.packetId = a)
    (hq : pending.packet.qos ≠ .atMostOnce)
    (hphase : pending.phase = .awaitingAck ↔ pending.packet.qos = .atLeastOnce)
    (hs : a ∉ f.subscribes) (hu : a ∉ f.unsubscribes) :
    Orderly { f with publishes := f.publishes.insert a pending } := by
  have hlook : ∀ (id : UInt16) (pending' : PendingPublish),
      (f.publishes.insert a pending)[id]? = some pending' →
      id = a ∧ pending' = pending ∨ f.publishes[id]? = some pending' := by
    intro id pending' hl
    rw [Std.ExtTreeMap.getElem?_insert] at hl
    split_ifs at hl with he
    · have he' : a = id := by simpa using he
      exact .inl ⟨he'.symm, (Option.some.inj hl).symm⟩
    · exact .inr hl
  have hmem : ∀ id ∈ f.publishes.insert a pending, id = a ∨ id ∈ f.publishes := by
    intro id hin
    rcases Std.ExtTreeMap.mem_insert.mp hin with he | hin
    · have he' : a = id := by simpa using he
      exact .inl he'.symm
    · exact .inr hin
  refine ⟨?_, ?_, ?_, ?_, ?_, h.disjoint⟩
  · intro id pending' hl
    rcases hlook id pending' hl with ⟨rfl, rfl⟩ | hl
    · exact hid
    · exact h.packetId_eq id pending' hl
  · intro id pending' hl
    rcases hlook id pending' hl with ⟨rfl, rfl⟩ | hl
    · exact hq
    · exact h.qos_ne id pending' hl
  · intro id pending' hl
    rcases hlook id pending' hl with ⟨rfl, rfl⟩ | hl
    · exact hphase
    · exact h.phase_iff id pending' hl
  · intro id hin
    rcases hmem id hin with rfl | hin
    · exact hs
    · exact h.not_mem_subscribes id hin
  · intro id hin
    rcases hmem id hin with rfl | hin
    · exact hu
    · exact h.not_mem_unsubscribes id hin

theorem trackPublish {packet : Publish} (ho : f.operation? packet.packetId = none)
    (hq : packet.qos ≠ .atMostOnce) : (f.trackPublish packet).Orderly := by
  obtain ⟨-, hs, hu⟩ := (f.operation?_eq_none_iff _).mp ho
  have hphase : Phase.initial packet.qos = .awaitingAck ↔ packet.qos = .atLeastOnce := by
    cases hqos : packet.qos with
    | atMostOnce => exact absurd hqos hq
    | atLeastOnce => simp [Phase.initial]
    | exactlyOnce => simp [Phase.initial]
  exact h.insert_publish ⟨packet, .initial packet.qos⟩ rfl hq hphase hs hu

theorem trackSubscribe {a : UInt16} (ha : f.operation? a = none) :
    (f.trackSubscribe a).Orderly := by
  obtain ⟨hp, -, hu⟩ := (f.operation?_eq_none_iff a).mp ha
  refine ⟨h.packetId_eq, h.qos_ne, h.phase_iff, ?_, h.not_mem_unsubscribes, ?_⟩
  · intro id hid hs
    rcases Std.ExtTreeSet.mem_insert.mp hs with he | hs
    · have he' : a = id := by simpa using he
      subst he'
      exact hp hid
    · exact h.not_mem_subscribes id hid hs
  · intro id hs
    rcases Std.ExtTreeSet.mem_insert.mp hs with he | hs
    · have he' : a = id := by simpa using he
      subst he'
      exact hu
    · exact h.disjoint id hs

theorem trackUnsubscribe {a : UInt16} (ha : f.operation? a = none) :
    (f.trackUnsubscribe a).Orderly := by
  obtain ⟨hp, hs, -⟩ := (f.operation?_eq_none_iff a).mp ha
  refine ⟨h.packetId_eq, h.qos_ne, h.phase_iff, h.not_mem_subscribes, ?_, ?_⟩
  · intro id hid hu
    rcases Std.ExtTreeSet.mem_insert.mp hu with he | hu
    · have he' : a = id := by simpa using he
      subst he'
      exact hp hid
    · exact h.not_mem_unsubscribes id hid hu
  · intro id hid hu
    rcases Std.ExtTreeSet.mem_insert.mp hu with he | hu
    · have he' : a = id := by simpa using he
      subst he'
      exact hs hid
    · exact h.disjoint id hid hu

/-! ### Acknowledgements -/

theorem erase_publish {a : UInt16} {pending : PendingPublish}
    (hl : f.publishes[a]? = some pending) :
    Orderly { f with publishes := f.publishes.erase a } ∧ ∀ id,
      operation? { f with publishes := f.publishes.erase a } id =
        if id = a then none else f.operation? id := by
  have hlook : ∀ (id : UInt16) (pending : PendingPublish),
      (f.publishes.erase a)[id]? = some pending → f.publishes[id]? = some pending := by
    intro id pending hl'
    rw [Std.ExtTreeMap.getElem?_erase] at hl'
    split_ifs at hl'
    exact hl'
  have hmem : ∀ id ∈ f.publishes.erase a, id ∈ f.publishes := fun id =>
    Std.ExtTreeMap.mem_of_mem_erase
  refine ⟨⟨?_, ?_, ?_, ?_, ?_, h.disjoint⟩, ?_⟩
  · exact fun id pending hl' => h.packetId_eq id pending (hlook id pending hl')
  · exact fun id pending hl' => h.qos_ne id pending (hlook id pending hl')
  · exact fun id pending hl' => h.phase_iff id pending (hlook id pending hl')
  · exact fun id hid => h.not_mem_subscribes id (hmem id hid)
  · exact fun id hid => h.not_mem_unsubscribes id (hmem id hid)
  · intro id
    by_cases he : id = a
    · subst he
      have hid : id ∈ f.publishes := (f.mem_publishes_iff id).mpr ⟨pending, hl⟩
      rw [if_pos rfl, operation?_eq_none_iff]
      exact ⟨by simp, h.not_mem_subscribes id hid, h.not_mem_unsubscribes id hid⟩
    · have he' : a ≠ id := fun hae => he hae.symm
      rw [if_neg he]
      apply operation?_congr
      · simp [Std.ExtTreeMap.getElem?_erase, he']
      · rfl
      · rfl

theorem erase_subscribe {a : UInt16} (ha : a ∈ f.subscribes) :
    Orderly { f with subscribes := f.subscribes.erase a } ∧ ∀ id,
      operation? { f with subscribes := f.subscribes.erase a } id =
        if id = a then none else f.operation? id := by
  have hmem : ∀ id ∈ f.subscribes.erase a, id ∈ f.subscribes := fun id =>
    Std.ExtTreeSet.mem_of_mem_erase
  refine ⟨⟨h.packetId_eq, h.qos_ne, h.phase_iff, ?_, h.not_mem_unsubscribes, ?_⟩, ?_⟩
  · exact fun id hid hs => h.not_mem_subscribes id hid (hmem id hs)
  · exact fun id hs => h.disjoint id (hmem id hs)
  · intro id
    by_cases he : id = a
    · subst he
      rw [if_pos rfl, operation?_eq_none_iff]
      exact ⟨fun hid => h.not_mem_subscribes id hid ha, by simp, h.disjoint id ha⟩
    · have he' : a ≠ id := fun hae => he hae.symm
      rw [if_neg he]
      apply operation?_congr
      · rfl
      · simp [he']
      · rfl

theorem erase_unsubscribe {a : UInt16} (ha : a ∈ f.unsubscribes) :
    Orderly { f with unsubscribes := f.unsubscribes.erase a } ∧ ∀ id,
      operation? { f with unsubscribes := f.unsubscribes.erase a } id =
        if id = a then none else f.operation? id := by
  have hmem : ∀ id ∈ f.unsubscribes.erase a, id ∈ f.unsubscribes := fun id =>
    Std.ExtTreeSet.mem_of_mem_erase
  refine ⟨⟨h.packetId_eq, h.qos_ne, h.phase_iff, h.not_mem_subscribes, ?_, ?_⟩, ?_⟩
  · exact fun id hid hu => h.not_mem_unsubscribes id hid (hmem id hu)
  · exact fun id hs hu => h.disjoint id hs (hmem id hu)
  · intro id
    by_cases he : id = a
    · subst he
      rw [if_pos rfl, operation?_eq_none_iff]
      exact ⟨fun hid => h.not_mem_unsubscribes id hid ha, fun hs => h.disjoint id hs ha, by simp⟩
    · have he' : a ≠ id := fun hae => he hae.symm
      rw [if_neg he]
      apply operation?_congr
      · rfl
      · rfl
      · simp [he']

/-- An acknowledgement that completes something completes the operation under its identifier, one of
its own kind, and touches no other. -/
theorem onAck {packet : Packet} {a : UInt16} {event : Event} {g : Inflight}
    (hp : packet.completion = some (a, event)) (hg : f.onAck packet = some g) :
    g.Orderly ∧ g.held = f.held ∧ event.settled? = some a ∧
      (∃ operation, f.operation? a = some operation ∧ event.Settles operation) ∧
      ∀ id, g.operation? id = if id = a then none else f.operation? id := by
  cases packet with
  | puback id =>
    obtain ⟨rfl, rfl⟩ := Prod.mk.inj (Option.some.inj hp)
    obtain ⟨pending, hl, -, rfl⟩ := completePublish_some hg
    exact ⟨(h.erase_publish hl).1, rfl, rfl,
      ⟨_, operation?_of_publish hl, h.packetId_eq _ pending hl⟩, (h.erase_publish hl).2⟩
  | pubcomp id =>
    obtain ⟨rfl, rfl⟩ := Prod.mk.inj (Option.some.inj hp)
    obtain ⟨pending, hl, -, rfl⟩ := completePublish_some hg
    exact ⟨(h.erase_publish hl).1, rfl, rfl,
      ⟨_, operation?_of_publish hl, h.packetId_eq _ pending hl⟩, (h.erase_publish hl).2⟩
  | suback packet =>
    obtain ⟨rfl, rfl⟩ := Prod.mk.inj (Option.some.inj hp)
    simp only [Inflight.onAck, onSuback] at hg
    split_ifs at hg with hs
    have hs' : packet.packetId ∈ f.subscribes := Std.ExtTreeSet.contains_iff_mem.mp hs
    have hn : packet.packetId ∉ f.publishes := fun hid => h.not_mem_subscribes _ hid hs'
    cases hg
    refine ⟨(h.erase_subscribe hs').1, rfl, rfl, ⟨.subscribe packet.packetId, ?_, rfl⟩,
      (h.erase_subscribe hs').2⟩
    rw [operation?_of_not_mem hn, if_pos hs']
  | unsuback id =>
    obtain ⟨rfl, rfl⟩ := Prod.mk.inj (Option.some.inj hp)
    simp only [Inflight.onAck, onUnsuback] at hg
    split_ifs at hg with hu
    have hu' : id ∈ f.unsubscribes := Std.ExtTreeSet.contains_iff_mem.mp hu
    have hn : id ∉ f.publishes := fun hid => h.not_mem_unsubscribes _ hid hu'
    have hs : id ∉ f.subscribes := fun hid => h.disjoint _ hid hu'
    cases hg
    refine ⟨(h.erase_unsubscribe hu').1, rfl, rfl, ⟨.unsubscribe id, ?_, rfl⟩,
      (h.erase_unsubscribe hu').2⟩
    rw [operation?_of_not_mem hn, if_neg hs, if_pos hu']
  | connect _ | connack _ | publish _ | pubrec _ | pubrel _ | subscribe _ | unsubscribe _ | pingreq
  | pingresp | disconnect => cases hp

theorem onPubrec {a : UInt16} {g : Inflight} (hg : f.onPubrec a = some g) :
    g.Orderly ∧ g.held = f.held ∧ ∀ id, g.operation? id = f.operation? id := by
  unfold Inflight.onPubrec at hg
  split at hg
  · next pending hl =>
    have ha : a ∈ f.publishes := (f.mem_publishes_iff a).mpr ⟨pending, hl⟩
    split at hg
    · cases hg
    · next hphase =>
      cases hg
      have hq : pending.packet.qos ≠ .atLeastOnce := by
        intro hq
        have hack := (h.phase_iff a pending hl).mpr hq
        rw [hphase] at hack
        cases hack
      refine ⟨?_, rfl, ?_⟩
      · exact h.insert_publish { pending with phase := .awaitingCompletion }
          (h.packetId_eq a pending hl) (h.qos_ne a pending hl) (by simpa using hq)
          (h.not_mem_subscribes a ha) (h.not_mem_unsubscribes a ha)
      · intro id
        rw [operation?_insert]
        split_ifs with he
        · subst he
          exact (operation?_of_publish hl).symm
        · rfl
    · cases hg
      exact ⟨h, rfl, fun _ => rfl⟩
  · cases hg

end Mqtt.Inflight.Orderly
