import Mathlib.Data.Finset.Card
import Mathlib.Logic.Function.Iterate
import Mathlib.Order.Interval.Finset.Nat
import Mathlib.Tactic.SplitIfs
import Mqtt.PacketIds

/-!
# The round of packet identifiers

The identifier that a search looks at after `k` others is `successor^[k]` of the one it starts from.
A search hands out the first free one, and one that finds none goes round the whole circle and
leaves the pool as it was.
-/

namespace Mqtt.PacketIds

theorem nodup_toList (t : Std.ExtTreeSet UInt16 compare) : t.toList.Nodup := by
  apply t.distinct_toList.imp
  intro a b hab he
  exact hab (by simp [he])

theorem successor_ne_zero (id : UInt16) : successor id ≠ 0 := by
  unfold successor
  split_ifs with h
  · decide
  · intro hz
    apply h
    have hn := congrArg UInt16.toNat hz
    have hlt := id.toNat_lt
    apply UInt16.toNat_inj.mp
    simp only [UInt16.toNat_add, UInt16.toNat_ofNat, Nat.reducePow] at hn hlt ⊢
    omega

theorem toNat_mem_Icc {id : UInt16} (h : id ≠ 0) : id.toNat ∈ Finset.Icc 1 total := by
  have hz : id.toNat ≠ 0 := fun hn => h (UInt16.toNat_inj.mp hn)
  have hlt := id.toNat_lt
  simp only [Nat.reducePow] at hlt
  simp only [Finset.mem_Icc, total]
  omega

theorem toNat_successor {id : UInt16} (h : id ≠ 0) :
    (successor id).toNat = id.toNat % total + 1 := by
  have hz : id.toNat ≠ 0 := fun hn => h (UInt16.toNat_inj.mp hn)
  have hlt := id.toNat_lt
  unfold successor total
  split_ifs with hm
  · subst hm
    rfl
  · have hm' : id.toNat ≠ 65535 := fun hn => hm (UInt16.toNat_inj.mp hn)
    simp only [UInt16.toNat_add, UInt16.toNat_ofNat, Nat.reducePow] at hlt ⊢
    omega

theorem iterate_successor_ne_zero {id : UInt16} (h : id ≠ 0) (k : ℕ) : successor^[k] id ≠ 0 := by
  cases k with
  | zero => exact h
  | succ k =>
    rw [Function.iterate_succ_apply']
    exact successor_ne_zero _

theorem toNat_iterate_successor {id : UInt16} (h : id ≠ 0) (k : ℕ) :
    (successor^[k] id).toNat = (id.toNat - 1 + k) % total + 1 := by
  obtain ⟨hpos, hle⟩ := Finset.mem_Icc.mp (toNat_mem_Icc h)
  induction k with
  | zero =>
    simp only [Function.iterate_zero, id_eq, total] at hle ⊢
    omega
  | succ k ih =>
    rw [Function.iterate_succ_apply', toNat_successor (iterate_successor_ne_zero h k), ih]
    simp only [total]
    omega

theorem iterate_successor_total {id : UInt16} (h : id ≠ 0) : successor^[total] id = id := by
  obtain ⟨hpos, hle⟩ := Finset.mem_Icc.mp (toNat_mem_Icc h)
  apply UInt16.toNat_inj.mp
  rw [toNat_iterate_successor h]
  simp only [total] at hle ⊢
  omega

theorem exists_iterate_successor {start id : UInt16} (hs : start ≠ 0) (hi : id ≠ 0) :
    ∃ j < total, successor^[j] start = id := by
  obtain ⟨hspos, hsle⟩ := Finset.mem_Icc.mp (toNat_mem_Icc hs)
  obtain ⟨hipos, hile⟩ := Finset.mem_Icc.mp (toNat_mem_Icc hi)
  refine ⟨(id.toNat + total - start.toNat) % total, Nat.mod_lt _ (by decide), ?_⟩
  apply UInt16.toNat_inj.mp
  rw [toNat_iterate_successor hs]
  simp only [total] at hsle hile ⊢
  omega

theorem search_some {start id : UInt16} {steps : ℕ} {ids ids' : PacketIds}
    (h : search start steps ids = (some id, ids')) :
    ∃ k < steps, id = successor^[k] ids.next ∧ (∀ j < k, ids.isBound (successor^[j] ids.next)) ∧
      ids.isBound id = false ∧ ids' = ⟨successor id, ids.bound.insert id⟩ := by
  induction steps generalizing ids with
  | zero => simp [search] at h
  | succ steps ih =>
    simp only [search] at h
    split_ifs at h with hb hs
    · simp at h
    · obtain ⟨k, hk, hid, hbound, hfree, hids⟩ := ih h
      refine ⟨k + 1, by omega, hid, ?_, hfree, hids⟩
      intro j hj
      cases j with
      | zero => exact hb
      | succ j => exact hbound j (by omega)
    · obtain ⟨hid, hids⟩ := Prod.mk.inj h
      cases hid
      refine ⟨0, by omega, rfl, fun j hj => absurd hj (by omega), ?_, hids.symm⟩
      exact Bool.eq_false_iff.mpr hb

/-- A search that finds nothing has met bound identifiers only, and moves the counter alone. -/
theorem search_none {start : UInt16} {steps : ℕ} {ids ids' : PacketIds}
    (h : search start steps ids = (none, ids')) :
    ∃ k, ids' = ⟨successor^[k] ids.next, ids.bound⟩ ∧
      (∀ j < k, ids.isBound (successor^[j] ids.next)) ∧
      (k = steps ∨ 0 < k ∧ successor^[k] ids.next = start) := by
  induction steps generalizing ids with
  | zero =>
    simp only [search, Prod.mk.injEq, true_and] at h
    subst h
    exact ⟨0, rfl, fun j hj => absurd hj (by omega), .inl rfl⟩
  | succ steps ih =>
    simp only [search] at h
    split_ifs at h with hb hs
    · obtain ⟨-, hids⟩ := Prod.mk.inj h
      refine ⟨1, hids.symm, ?_, .inr ⟨by omega, hs⟩⟩
      intro j hj
      have hz : j = 0 := by omega
      subst hz
      exact hb
    · obtain ⟨k, hids, hbound, hk⟩ := ih h
      refine ⟨k + 1, hids, ?_, ?_⟩
      · intro j hj
        cases j with
        | zero => exact hb
        | succ j => exact hbound j (by omega)
      · rcases hk with rfl | ⟨hpos, hstart⟩
        · exact .inl rfl
        · exact .inr ⟨by omega, hstart⟩
    · simp at h

theorem acquire_some {ids ids' : PacketIds} {id : UInt16} (h : ids.acquire = (some id, ids')) :
    ids.isBound id = false ∧ ids' = ⟨successor id, ids.bound.insert id⟩ ∧
      (ids.next ≠ 0 → id ≠ 0) := by
  obtain ⟨k, -, hid, -, hfree, hids⟩ := search_some h
  refine ⟨hfree, hids, fun hn => ?_⟩
  rw [hid]
  exact iterate_successor_ne_zero hn k

theorem acquire_none {ids ids' : PacketIds} (h : ids.acquire = (none, ids')) (hn : ids.next ≠ 0) :
    ids' = ids := by
  obtain ⟨k, hids, -, hk⟩ := search_none h
  have hback : successor^[k] ids.next = ids.next := by
    rcases hk with rfl | ⟨-, hstart⟩
    · exact iterate_successor_total hn
    · exact hstart
  rw [hids, hback]

theorem acquire_eq_none_iff {ids : PacketIds} (hn : ids.next ≠ 0) :
    ids.acquire.1 = none ↔ ∀ id, id ≠ 0 → ids.isBound id := by
  constructor
  · intro h id hid
    obtain ⟨k, -, hbound, hk⟩ := search_none (Prod.ext h rfl : ids.acquire = (none, ids.acquire.2))
    -- A search that comes back to its start has looked at all identifiers.
    have htotal : total ≤ k := by
      rcases hk with rfl | ⟨hpos, hstart⟩
      · exact le_rfl
      · have hround := toNat_iterate_successor hn k
        rw [hstart] at hround
        simp only [total] at hround ⊢
        omega
    obtain ⟨j, hj, rfl⟩ := exists_iterate_successor hn hid
    exact hbound j (hj.trans_le htotal)
  · intro hall
    cases h : ids.acquire with
    | mk found ids' =>
      cases found with
      | none => rfl
      | some id =>
        obtain ⟨hfree, -, hid⟩ := acquire_some h
        rw [hall id (hid hn)] at hfree
        cases hfree

/-! ### How many are bound -/

def numbers (ids : PacketIds) : Finset ℕ := (ids.bound.toList.map UInt16.toNat).toFinset

theorem mem_numbers {ids : PacketIds} {n : ℕ} :
    n ∈ ids.numbers ↔ ∃ id, ids.isBound id ∧ id.toNat = n := by
  simp only [numbers, List.mem_toFinset, List.mem_map, Std.ExtTreeSet.mem_toList, isBound,
    Std.ExtTreeSet.contains_iff_mem]

theorem card_numbers (ids : PacketIds) : ids.numbers.card = ids.count := by
  have hnodup : (ids.bound.toList.map UInt16.toNat).Nodup :=
    (nodup_toList ids.bound).map fun _ _ => UInt16.toNat_inj.mp
  rw [numbers, List.toFinset_card_of_nodup hnodup, List.length_map, Std.ExtTreeSet.length_toList]
  rfl

theorem numbers_subset {ids : PacketIds} (hz : ids.isBound 0 = false) :
    ids.numbers ⊆ Finset.Icc 1 total := by
  intro n hn
  obtain ⟨id, hid, rfl⟩ := mem_numbers.mp hn
  apply toNat_mem_Icc
  rintro rfl
  rw [hz] at hid
  cases hid

theorem count_eq_total_iff {ids : PacketIds} (hz : ids.isBound 0 = false) :
    ids.count = total ↔ ∀ id, id ≠ 0 → ids.isBound id := by
  have hsub := numbers_subset hz
  have hcard : (Finset.Icc 1 total).card = total := Nat.card_Icc 1 total
  constructor
  · intro hcount id hid
    have hall : ids.numbers = Finset.Icc 1 total := by
      apply Finset.eq_of_subset_of_card_le hsub
      rw [hcard, card_numbers, hcount]
    obtain ⟨other, hbound, heq⟩ := mem_numbers.mp (hall ▸ toNat_mem_Icc hid)
    rw [← UInt16.toNat_inj.mp heq]
    exact hbound
  · intro hall
    have hsup : Finset.Icc 1 total ⊆ ids.numbers := by
      intro n hn
      obtain ⟨hpos, hle⟩ := Finset.mem_Icc.mp hn
      have hto : (UInt16.ofNat n).toNat = n :=
        UInt16.toNat_ofNat_of_lt' (hle.trans_lt (by decide))
      refine mem_numbers.mpr ⟨UInt16.ofNat n, hall _ ?_, hto⟩
      intro hz'
      rw [hz'] at hto
      exact absurd hto.symm (Nat.ne_of_gt hpos)
    rw [← card_numbers, ← hcard, hsub.antisymm hsup]

theorem isBound_insert (ids : PacketIds) (next id a : UInt16) :
    isBound ⟨next, ids.bound.insert id⟩ a = (decide (a = id) || ids.isBound a) := by
  by_cases h : a = id
  · subst h
    simp [isBound]
  · have h' : id ≠ a := fun he => h he.symm
    simp [isBound, Std.ExtTreeSet.contains_insert, h, h']

end Mqtt.PacketIds
