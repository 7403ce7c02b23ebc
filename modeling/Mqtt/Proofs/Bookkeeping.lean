import Mqtt.Proofs.Exchanges
import Mqtt.Proofs.IdRound
import Mqtt.Proofs.Moves
import Mqtt.Proofs.Pending

/-!
# Bound identifiers are those of pending operations

The pool of identifiers and the operations in flight are two records that no single function updates
together. `Bookkeeping` says that they agree between operations, and every rule keeps it.
-/

namespace Mqtt.Session

/-- An identifier is bound exactly while an operation waits under it, which takes an accepted
connection. -/
structure Bookkeeping (s : Session) : Prop where
  orderly : s.inflight.Orderly
  isBound_eq : ∀ id, s.ids.isBound id = (s.inflight.operation? id).isSome
  isBound_zero : s.ids.isBound 0 = false
  next_ne_zero : s.ids.next ≠ 0
  offline : s.status ≠ .connected → ∀ id, s.ids.isBound id = false

namespace Bookkeeping

variable {s : Session} (h : Bookkeeping s)
include h

theorem congr {s' : Session} (hids : s'.ids = s.ids)
    (hp : s'.inflight.publishes = s.inflight.publishes)
    (hsub : s'.inflight.subscribes = s.inflight.subscribes)
    (hunsub : s'.inflight.unsubscribes = s.inflight.unsubscribes)
    (hst : s'.status ≠ .connected → s.status ≠ .connected) : Bookkeeping s' := by
  obtain ⟨options, status, now, clientId, attempt, transport, ids, inflight, keepAlive⟩ := s'
  obtain ⟨publishes, subscribes, unsubscribes, held⟩ := inflight
  cases hids
  cases hp
  cases hsub
  cases hunsub
  exact ⟨⟨h.orderly.packetId_eq, h.orderly.qos_ne, h.orderly.phase_iff,
    h.orderly.not_mem_subscribes, h.orderly.not_mem_unsubscribes, h.orderly.disjoint⟩,
    h.isBound_eq, h.isBound_zero, h.next_ne_zero, fun hne => h.offline (hst hne)⟩

theorem atTime (now : Int) : Bookkeeping (s.atTime now) :=
  h.congr rfl rfl rfl rfl id

theorem written : Bookkeeping s.written := h.congr rfl rfl rfl rfl id

theorem acquire {id : UInt16} {ids : PacketIds} (ha : s.ids.acquire = (some id, ids)) :
    s.inflight.operation? id = none ∧ id ≠ 0 ∧ ids.next ≠ 0 ∧
      ∀ a, ids.isBound a = (decide (a = id) || s.ids.isBound a) := by
  obtain ⟨hfree, rfl, hz⟩ := PacketIds.acquire_some ha
  refine ⟨?_, hz h.next_ne_zero, PacketIds.successor_ne_zero id,
    PacketIds.isBound_insert s.ids _ id⟩
  rw [h.isBound_eq, Option.isSome_eq_false_iff, Option.isNone_iff_eq_none] at hfree
  exact hfree

theorem acquire_eq_none_iff : s.ids.acquire.1 = none ↔ s.ids.count = PacketIds.total :=
  (PacketIds.acquire_eq_none_iff h.next_ne_zero).trans
    (PacketIds.count_eq_total_iff h.isBound_zero).symm

theorem track {id : UInt16} {ids : PacketIds} {f : Inflight} {operation : Abandoned}
    (hs : s.status = .connected) (ha : s.ids.acquire = (some id, ids)) (hf : f.Orderly)
    (ho : ∀ a, f.operation? a = if a = id then some operation else s.inflight.operation? a) :
    Bookkeeping { s with ids := ids, inflight := f } := by
  obtain ⟨-, hz, hnext, hbound⟩ := h.acquire ha
  refine ⟨hf, ?_, ?_, hnext, fun hne => absurd hs hne⟩
  · intro a
    change ids.isBound a = (f.operation? a).isSome
    rw [hbound, ho]
    by_cases he : a = id
    · simp [he]
    · simp [he, h.isBound_eq]
  · change ids.isBound 0 = false
    rw [hbound, h.isBound_zero]
    simp [hz.symm]

/-- An identifier that nothing will acknowledge is free again at once. -/
theorem acquire_release {id : UInt16} {ids : PacketIds} (hs : s.status = .connected)
    (ha : s.ids.acquire = (some id, ids)) : Bookkeeping { s with ids := ids.release id } := by
  obtain ⟨hnone, -, hnext, hbound⟩ := h.acquire ha
  have hsame : ∀ a, (ids.release id).isBound a = s.ids.isBound a := by
    intro a
    rw [PacketIds.isBound_release, hbound]
    by_cases he : a = id
    · subst he
      simp [h.isBound_eq, hnone]
    · have he' : id ≠ a := fun hia => he hia.symm
      simp [he, he']
  refine ⟨h.orderly, ?_, ?_, hnext, fun hne => absurd hs hne⟩
  · intro a
    exact (hsame a).trans (h.isBound_eq a)
  · exact (hsame 0).trans h.isBound_zero

theorem complete {packet : Packet} {id : UInt16} {event : Event} {f : Inflight}
    (hs : s.status = .connected) (hp : packet.completion = some (id, event))
    (ha : s.inflight.onAck packet = some f) :
    Bookkeeping { s with inflight := f, ids := s.ids.release id } := by
  obtain ⟨hf, -, -, -, ho⟩ := h.orderly.onAck hp ha
  refine ⟨hf, ?_, ?_, h.next_ne_zero, fun hne => absurd hs hne⟩
  · intro a
    change (s.ids.release id).isBound a = (f.operation? a).isSome
    rw [PacketIds.isBound_release, ho, h.isBound_eq]
    by_cases he : a = id
    · simp [he]
    · have he' : id ≠ a := fun hia => he hia.symm
      simp [he, he']
  · change (s.ids.release id).isBound 0 = false
    rw [PacketIds.isBound_release, h.isBound_zero, Bool.and_false]

end Bookkeeping

theorem bookkeeping_of_empty {s : Session} {held : Std.ExtTreeMap UInt16 Publish compare}
    (hf : s.inflight = { held := held }) (hb : ∀ id, s.ids.isBound id = false)
    (hn : s.ids.next ≠ 0) : Bookkeeping s := by
  refine ⟨?_, ?_, hb 0, hn, fun _ => hb⟩
  · rw [hf]
    exact Inflight.orderly_empty held
  · intro id
    rw [hb, hf, Inflight.operation?_empty]
    rfl

theorem bookkeeping_ended {s : Session} (h : s.ids.next ≠ 0) : Bookkeeping s.ended :=
  bookkeeping_of_empty rfl (PacketIds.isBound_releaseAll s.ids) h

theorem bookkeeping_new (o : ConnectOptions) : Bookkeeping (new o) := by
  have hn : (1 : UInt16) ≠ 0 := by decide
  exact bookkeeping_of_empty rfl PacketIds.isBound_empty hn

theorem Writes.next_ne_zero {s u v : Session} {input : Input} {packet : Packet}
    {events : List Event} {output : Output} (h : Writes s input packet u v events output)
    (hs : Bookkeeping s) : u.ids.next ≠ 0 := by
  cases h with
  | publishOnce packet id ids _ _ ha _ => exact (hs.acquire ha).2.2.1
  | publish packet id ids _ _ ha _ => exact (hs.acquire ha).2.2.1
  | subscribe packet id ids _ _ ha => exact (hs.acquire ha).2.2.1
  | unsubscribe packet id ids _ _ ha => exact (hs.acquire ha).2.2.1
  | pubrec message _ _ _ hu =>
    subst hu
    exact hs.next_ne_zero
  | connect _ _ | puback _ _ _ | pubrel _ _ _ _ | pubcompOnly _ _ _ | pubcomp _ _ _ _ _ | ping _
  | keepAlive _ _ => exact hs.next_ne_zero

theorem Writes.bookkeeping {s u v : Session} {input : Input} {packet : Packet}
    {events : List Event} {output : Output} (h : Writes s input packet u v events output)
    (hs : Bookkeeping s) : Bookkeeping v := by
  cases h with
  | connect transport hst =>
    unfold install
    by_cases hc : s.options.cleanSession
    · rw [if_pos hc]
      exact hs.congr rfl rfl rfl rfl id
    · rw [if_neg hc]
      exact hs.congr rfl rfl rfl rfl id
  | pubrec message hst hq u hu =>
    subst hu
    cases hh : s.inflight.hold message with
    | none => exact hs
    | some f =>
      unfold Inflight.hold at hh
      split at hh
      · cases hh
      · cases hh
        exact hs.congr rfl rfl rfl rfl id
  | pubrel id f hst hr =>
    obtain ⟨hf, -, ho⟩ := hs.orderly.onPubrec hr
    exact ⟨hf, fun a => by rw [ho]; exact hs.isBound_eq a, hs.isBound_zero, hs.next_ne_zero,
      hs.offline⟩
  | pubcomp id message f hst hr =>
    unfold Inflight.unhold at hr
    split at hr
    · cases hr
      exact hs.congr rfl rfl rfl rfl fun hne => hne
    · cases hr
  | publishOnce packet id ids hc hst ha hq => exact hs.acquire_release hst ha
  | publish packet id ids hc hst ha hq =>
    obtain ⟨hnone, -⟩ := hs.acquire ha
    exact hs.track hst ha (hs.orderly.trackPublish hnone hq) (Inflight.operation?_insert _ _ _)
  | subscribe packet id ids hc hst ha =>
    obtain ⟨hnone, -⟩ := hs.acquire ha
    exact hs.track hst ha (hs.orderly.trackSubscribe hnone)
      (Inflight.operation?_trackSubscribe hnone)
  | unsubscribe packet id ids hc hst ha =>
    obtain ⟨hnone, -⟩ := hs.acquire ha
    exact hs.track hst ha (hs.orderly.trackUnsubscribe hnone)
      (Inflight.operation?_trackUnsubscribe hnone)
  | puback _ _ _ | pubcompOnly _ _ _ | ping _ | keepAlive _ _ => exact hs

theorem Transition.bookkeeping {s : Session} {fault : Option Error} {input : Input} {y : Yield}
    (h : Transition s fault input y) (hs : Bookkeeping s) : Bookkeeping y.session := by
  cases h with
  | idle _ => exact hs
  | wrote hw _ _ => exact (hw.bookkeeping hs).written
  | writeFailed hw _ => exact bookkeeping_ended (hw.next_ne_zero hs)
  | discarded _ _ _ => exact hs
  | began _ hst _ _ => exact hs.congr rfl rfl rfl rfl fun _ => by simp [hst]
  | failed _ hst => exact hs.congr rfl rfl rfl rfl fun _ => by simp [hst]
  | closed _ => exact bookkeeping_ended hs.next_ne_zero
  | accepted _ _ _ => exact hs.congr rfl rfl rfl rfl fun hne => absurd rfl hne
  | refused _ hst _ => exact hs.congr rfl rfl rfl rfl fun _ => by simp [hst]
  | delivered _ _ _ => exact hs
  | completed packet id event f hst hp ha => exact hs.complete hst hp ha
  | ponged _ => exact hs
  | exhausted request ids _ _ _ ha =>
    rw [PacketIds.acquire_none ha hs.next_ne_zero]
    exact hs
  | disconnected _ => exact bookkeeping_ended hs.next_ne_zero

theorem Bookkeeping.count_eq {s : Session} (h : Bookkeeping s) :
    s.ids.count = s.inflight.pendingCount := by
  have hperm : s.ids.bound.toList.Perm (s.inflight.pending.map Abandoned.packetId) := by
    apply (List.perm_ext_iff_of_nodup (PacketIds.nodup_toList s.ids.bound)
      h.orderly.nodup_pending).mpr
    intro id
    have hsome : id ∈ s.ids.bound.toList ↔ (s.inflight.operation? id).isSome := by
      rw [← h.isBound_eq, Std.ExtTreeSet.mem_toList]
      exact Std.ExtTreeSet.contains_iff_mem.symm
    rw [hsome, List.mem_map, Option.isSome_iff_exists]
    constructor
    · rintro ⟨operation, ho⟩
      have hid := h.orderly.packetId_operation? ho
      exact ⟨operation, (h.orderly.mem_pending_iff operation).mpr (by rw [hid, ho]), hid⟩
    · rintro ⟨operation, hin, rfl⟩
      exact ⟨operation, (h.orderly.mem_pending_iff operation).mp hin⟩
  have hlength := hperm.length_eq
  rw [List.length_map, Inflight.length_pending, Std.ExtTreeSet.length_toList] at hlength
  exact hlength

theorem bookkeeping_run (o : ConnectOptions) (as : List Action) : Bookkeeping ((new o).run as) :=
  run_induction (bookkeeping_new o) (fun m hm => m.transition.bookkeeping (hm.atTime _)) as

/-- After every run, the bound identifiers are exactly those of the three collections of pending
operations, which are disjoint; each publish stands under its own identifier, at a level of service
and in a phase that wait for an answer; and without an accepted connection nothing is pending. -/
theorem bound_ids_eq_pending_ids (o : ConnectOptions) (as : List Action) :
    let s := (new o).run as
    let f := s.inflight
    (∀ id, s.ids.isBound id ↔ id ∈ f.publishes ∨ id ∈ f.subscribes ∨ id ∈ f.unsubscribes) ∧
    (∀ id, ¬(id ∈ f.publishes ∧ id ∈ f.subscribes) ∧ ¬(id ∈ f.publishes ∧ id ∈ f.unsubscribes) ∧
      ¬(id ∈ f.subscribes ∧ id ∈ f.unsubscribes)) ∧
    s.ids.count = f.pendingCount ∧
    s.ids.isBound 0 = false ∧
    (∀ (id : UInt16) (pending : PendingPublish), f.publishes[id]? = some pending →
      pending.packet.packetId = id ∧
      (pending.packet.qos = .atLeastOnce ∨ pending.packet.qos = .exactlyOnce) ∧
      (pending.phase = .awaitingAck ↔ pending.packet.qos = .atLeastOnce)) ∧
    (1 ≤ s.ids.next.toNat ∧ s.ids.next.toNat ≤ 65535) ∧
    (s.status ≠ .connected → (∀ id, s.ids.isBound id = false) ∧ f.pendingCount = 0) := by
  have h := bookkeeping_run o as
  dsimp only
  generalize (new o).run as = s at h ⊢
  refine ⟨?_, ?_, h.count_eq, h.isBound_zero, ?_, ?_, ?_⟩
  · intro id
    rw [h.isBound_eq, Inflight.isSome_operation?_iff]
  · intro id
    exact ⟨fun hid => h.orderly.not_mem_subscribes id hid.1 hid.2,
      fun hid => h.orderly.not_mem_unsubscribes id hid.1 hid.2,
      fun hid => h.orderly.disjoint id hid.1 hid.2⟩
  · intro id pending hl
    refine ⟨h.orderly.packetId_eq id pending hl, ?_, h.orderly.phase_iff id pending hl⟩
    cases hq : pending.packet.qos with
    | atMostOnce => exact absurd hq (h.orderly.qos_ne id pending hl)
    | atLeastOnce => exact .inl rfl
    | exactlyOnce => exact .inr rfl
  · have hn : s.ids.next.toNat ≠ 0 := fun hn => h.next_ne_zero (UInt16.toNat_inj.mp hn)
    have hlt := s.ids.next.toNat_lt
    simp only [Nat.reducePow] at hlt
    omega
  · intro hs
    refine ⟨h.offline hs, ?_⟩
    have hempty : s.ids.bound = ∅ :=
      Std.ExtTreeSet.eq_empty_iff_forall_contains.mpr (h.offline hs)
    rw [← h.count_eq, PacketIds.count, hempty, Std.ExtTreeSet.size_empty]

end Mqtt.Session
