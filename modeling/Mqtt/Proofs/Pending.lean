import Mathlib.Data.List.Nodup
import Mqtt.Proofs.IdRound
import Mqtt.Proofs.Operations

/-!
# Everything that is pending

`Inflight.pending` lists each operation in flight once, so that giving everything up reports each
operation once, in ascending order of identifier.
-/

namespace Mqtt.Inflight

/-! ### Sorting by identifier -/

theorem packetId_le_trans (a b c : Abandoned) (hab : decide (a.packetId ≤ b.packetId))
    (hbc : decide (b.packetId ≤ c.packetId)) : decide (a.packetId ≤ c.packetId) := by
  rw [decide_eq_true_eq] at hab hbc ⊢
  exact UInt16.le_trans hab hbc

theorem packetId_le_total (a b : Abandoned) :
    decide (a.packetId ≤ b.packetId) || decide (b.packetId ≤ a.packetId) := by
  rw [Bool.or_eq_true, decide_eq_true_eq, decide_eq_true_eq]
  exact UInt16.le_total a.packetId b.packetId

theorem pairwise_byId (operations : List Abandoned) :
    (byId operations).Pairwise fun a b => a.packetId ≤ b.packetId :=
  (List.pairwise_mergeSort packetId_le_trans packetId_le_total operations).imp of_decide_eq_true

/-! ### Orderly records -/

namespace Orderly

variable {f : Inflight} (h : f.Orderly)
include h

theorem mem_pending_iff (operation : Abandoned) :
    operation ∈ f.pending ↔ f.operation? operation.packetId = some operation := by
  constructor
  · intro ho
    simp only [Inflight.pending, List.mem_append, List.mem_map] at ho
    rcases ho with (⟨⟨id, pending⟩, hin, rfl⟩ | ⟨id, hin, rfl⟩) | ⟨id, hin, rfl⟩
    · have hl := Std.ExtTreeMap.mem_toList_iff_getElem?_eq_some.mp hin
      have hid : Abandoned.packetId (.publish pending.packet) = id := h.packetId_eq id pending hl
      rw [hid]
      exact operation?_of_publish hl
    · have hs := Std.ExtTreeSet.mem_toList.mp hin
      have hp : id ∉ f.publishes := fun hp => h.not_mem_subscribes id hp hs
      change f.operation? id = _
      rw [operation?_of_not_mem hp, if_pos hs]
    · have hu := Std.ExtTreeSet.mem_toList.mp hin
      have hp : id ∉ f.publishes := fun hp => h.not_mem_unsubscribes id hp hu
      have hs : id ∉ f.subscribes := fun hs => h.disjoint id hs hu
      change f.operation? id = _
      rw [operation?_of_not_mem hp, if_neg hs, if_pos hu]
  · intro ho
    simp only [Inflight.pending, List.mem_append, List.mem_map]
    by_cases hp : operation.packetId ∈ f.publishes
    · obtain ⟨pending, hl⟩ := (f.mem_publishes_iff _).mp hp
      rw [operation?_of_publish hl] at ho
      exact .inl (.inl ⟨(operation.packetId, pending),
        Std.ExtTreeMap.mem_toList_iff_getElem?_eq_some.mpr hl, Option.some.inj ho⟩)
    · rw [operation?_of_not_mem hp] at ho
      split_ifs at ho with hs hu
      · exact .inl (.inr ⟨_, Std.ExtTreeSet.mem_toList.mpr hs, Option.some.inj ho⟩)
      · exact .inr ⟨_, Std.ExtTreeSet.mem_toList.mpr hu, Option.some.inj ho⟩

theorem nodup_pending : (f.pending.map Abandoned.packetId).Nodup := by
  have hpub : (f.publishes.toList.map fun entry => entry.2.packet.packetId) =
      f.publishes.toList.map Prod.fst := by
    apply List.map_congr_left
    rintro ⟨id, pending⟩ hin
    exact h.packetId_eq id pending (Std.ExtTreeMap.mem_toList_iff_getElem?_eq_some.mp hin)
  have hkeys : (f.publishes.toList.map Prod.fst).Nodup := by
    rw [Std.ExtTreeMap.map_fst_toList_eq_keys]
    exact Std.ExtTreeMap.nodup_keys
  have hlist : f.pending.map Abandoned.packetId =
      f.publishes.toList.map Prod.fst ++ f.subscribes.toList ++ f.unsubscribes.toList := by
    rw [← hpub]
    simp [Inflight.pending, Function.comp_def, Abandoned.packetId]
  have hin : ∀ id, id ∈ f.publishes.toList.map Prod.fst → id ∈ f.publishes := by
    intro id hid
    rw [Std.ExtTreeMap.map_fst_toList_eq_keys] at hid
    exact Std.ExtTreeMap.mem_keys.mp hid
  rw [hlist]
  refine List.Nodup.append (List.Nodup.append hkeys (PacketIds.nodup_toList _) ?_)
    (PacketIds.nodup_toList _) ?_
  · intro id hid hs
    exact h.not_mem_subscribes id (hin id hid) (Std.ExtTreeSet.mem_toList.mp hs)
  · intro id hid hu
    rcases List.mem_append.mp hid with hid | hid
    · exact h.not_mem_unsubscribes id (hin id hid) (Std.ExtTreeSet.mem_toList.mp hu)
    · exact h.disjoint id (Std.ExtTreeSet.mem_toList.mp hid) (Std.ExtTreeSet.mem_toList.mp hu)

/-- What is given up holds the operation of each identifier, if there is one, exactly once. -/
theorem filter_abandon (id : UInt16) :
    f.abandon.1.filter (fun operation => operation.packetId = id) = (f.operation? id).toList := by
  have hmem : ∀ operation, operation ∈ f.abandon.1 ↔
      f.operation? operation.packetId = some operation := by
    intro operation
    rw [f.perm_abandon.mem_iff, h.mem_pending_iff]
  cases ho : f.operation? id with
  | none =>
    apply List.filter_eq_nil_iff.mpr
    intro operation hin he
    have hid : operation.packetId = id := by simpa using he
    have hsome := (hmem operation).mp hin
    rw [hid, ho] at hsome
    cases hsome
  | some operation =>
    have hnodup : (f.abandon.1.filter fun operation => operation.packetId = id).Nodup :=
      ((f.perm_abandon.map _).nodup_iff.mpr h.nodup_pending).of_map.filter _
    apply List.Perm.eq_singleton
    apply (List.perm_ext_iff_of_nodup hnodup (List.nodup_singleton _)).mpr
    intro other
    rw [List.mem_filter, hmem, List.mem_singleton, decide_eq_true_eq]
    constructor
    · rintro ⟨hsome, hid⟩
      rw [hid, ho] at hsome
      exact (Option.some.inj hsome).symm
    · rintro rfl
      have hid := h.packetId_operation? ho
      exact ⟨by rw [hid, ho], hid⟩

theorem pairwise_abandon : f.abandon.1.Pairwise fun a b => a.packetId < b.packetId := by
  have hne : f.abandon.1.Pairwise fun a b => a.packetId ≠ b.packetId :=
    List.pairwise_map.mp ((f.perm_abandon.map _).nodup_iff.mpr h.nodup_pending)
  exact ((pairwise_byId f.pending).and hne).imp fun hab => UInt16.lt_of_le_of_ne hab.1 hab.2

end Orderly

theorem length_pending (f : Inflight) : f.pending.length = f.pendingCount := by
  simp [pending, pendingCount, Nat.add_assoc]

theorem Orderly.pendingCount_eq_zero_iff {f : Inflight} (h : f.Orderly) :
    f.pendingCount = 0 ↔ ∀ id, f.operation? id = none := by
  rw [← f.length_pending, List.length_eq_zero_iff, List.eq_nil_iff_forall_not_mem]
  constructor
  · intro hn id
    cases ho : f.operation? id with
    | none => rfl
    | some operation =>
      refine absurd ((h.mem_pending_iff operation).mpr ?_) (hn operation)
      rw [h.packetId_operation? ho, ho]
  · intro hn operation hin
    have ho := (h.mem_pending_iff operation).mp hin
    rw [hn] at ho
    cases ho

end Mqtt.Inflight
