import Mathlib.Data.List.Iterate
import Mqtt.Proofs.IdRound
import Mqtt.Session.Request

/-!
# Identifiers are handed out first fit

`round` lists the identifiers in the order in which a search comes by them, from where the counter
stands. Whatever has been asked of a pool before, the first free one of the round is handed out. The
search ends by itself: `Loop` is the same search with nothing to limit its turns, and it takes no
more turns than there are identifiers.
-/

namespace Mqtt.PacketIds

/-! ### The order of the round -/

/-- All identifiers from one on, once round: `c, c + 1, …, 65535, 1, …, c - 1`. -/
def round (first : UInt16) : List UInt16 :=
  (List.range' first.toNat (total + 1 - first.toNat) ++
    List.range' 1 (first.toNat - 1)).map UInt16.ofNat

theorem range'_append_range' {n c : ℕ} (hpos : 1 ≤ c) (hle : c ≤ n) :
    List.range' c (n + 1 - c) ++ List.range' 1 (c - 1) =
      (List.range n).map fun i => (c - 1 + i) % n + 1 := by
  apply List.ext_getElem
  · simp only [List.length_append, List.length_range', List.length_map, List.length_range]
    omega
  · intro i _ hi
    rw [List.length_map, List.length_range] at hi
    rw [List.getElem_map, List.getElem_range]
    by_cases hb : i < n + 1 - c
    · rw [List.getElem_append_left (by rwa [List.length_range']), List.getElem_range',
        Nat.mod_eq_of_lt (by omega)]
      omega
    · rw [List.getElem_append_right (by rw [List.length_range']; omega), List.getElem_range',
        List.length_range', Nat.mod_eq_sub_mod (by omega), Nat.mod_eq_of_lt (by omega)]
      omega

theorem round_eq_iterate {first : UInt16} (h : first ≠ 0) :
    round first = List.iterate successor first total := by
  obtain ⟨hpos, hle⟩ := Finset.mem_Icc.mp (toNat_mem_Icc h)
  rw [round, range'_append_range' hpos hle, List.map_map, ← List.range_map_iterate]
  apply List.map_congr_left
  intro k _
  rw [Function.comp_apply, ← toNat_iterate_successor h k, UInt16.ofNat_toNat]

theorem mem_round {first : UInt16} (h : first ≠ 0) (id : UInt16) :
    id ∈ round first ↔ id ≠ 0 := by
  rw [round_eq_iterate h, ← List.range_map_iterate]
  simp only [List.mem_map, List.mem_range]
  constructor
  · rintro ⟨k, -, rfl⟩
    exact iterate_successor_ne_zero h k
  · intro hid
    exact exists_iterate_successor h hid

theorem length_round {first : UInt16} (h : first ≠ 0) : (round first).length = total := by
  rw [round_eq_iterate h, List.length_iterate]

/-! ### The search without a limit -/

/-- The turns of a search until it ends, with the identifiers that it looks at and what it ends
with. A turn moves the counter on first; it takes the identifier that the counter stood at, if that
is free, and otherwise gives up if the counter is back at the start. -/
inductive Loop (start : UInt16) : PacketIds → List UInt16 → Option UInt16 × PacketIds → Prop
  | found {ids : PacketIds} (hf : ids.isBound ids.next = false) :
      Loop start ids [ids.next]
        (some ids.next, ⟨successor ids.next, ids.bound.insert ids.next⟩)
  | around {ids : PacketIds} (hb : ids.isBound ids.next) (hs : successor ids.next = start) :
      Loop start ids [ids.next] (none, ⟨successor ids.next, ids.bound⟩)
  | further {ids : PacketIds} {tested : List UInt16} {r : Option UInt16 × PacketIds}
      (hb : ids.isBound ids.next) (hs : successor ids.next ≠ start)
      (h : Loop start ⟨successor ids.next, ids.bound⟩ tested r) :
      Loop start ids (ids.next :: tested) r

namespace Loop

variable {start : UInt16} {ids : PacketIds} {tested tested' : List UInt16}
  {r r' : Option UInt16 × PacketIds}

theorem tested_eq_iterate (h : Loop start ids tested r) :
    tested = List.iterate successor ids.next tested.length := by
  induction h with
  | found _ | around _ _ => rfl
  | further _ _ _ ih =>
    rw [List.length_cons, List.iterate]
    exact congrArg (_ :: ·) ih

theorem unique (h : Loop start ids tested r) (h' : Loop start ids tested' r') :
    tested' = tested ∧ r' = r := by
  induction h generalizing tested' with
  | found hf =>
    cases h' with
    | found _ => exact ⟨rfl, rfl⟩
    | around hb _ | further hb _ _ => simp [hf] at hb
  | around hb hs =>
    cases h' with
    | found hf => simp [hb] at hf
    | around _ _ => exact ⟨rfl, rfl⟩
    | further _ hne _ => exact absurd hs hne
  | further hb hne _ ih =>
    cases h' with
    | found hf => simp [hb] at hf
    | around _ hs => exact absurd hs hne
    | further _ _ h' =>
      obtain ⟨rfl, rfl⟩ := ih h'
      exact ⟨rfl, rfl⟩

end Loop

/-- With turns enough to come back to its start, a search ends by itself. -/
theorem loop_search {start : UInt16} {steps d : ℕ} {ids : PacketIds} (hd : 0 < d)
    (hle : d ≤ steps) (hback : successor^[d] ids.next = start) :
    ∃ tested, tested.length ≤ d ∧ Loop start ids tested (search start steps ids) := by
  induction steps generalizing d ids with
  | zero => omega
  | succ steps ih =>
    obtain ⟨d, rfl⟩ := Nat.exists_eq_add_one_of_ne_zero hd.ne'
    rw [Function.iterate_succ_apply] at hback
    simp only [search]
    split_ifs with hb hs
    · exact ⟨[ids.next], Nat.le_add_left 1 d, .around hb hs⟩
    · have hd' : 0 < d := by
        apply Nat.pos_of_ne_zero
        rintro rfl
        exact hs hback
      have hback' : successor^[d] (mk (successor ids.next) ids.bound).next = start := hback
      obtain ⟨tested, hlength, hloop⟩ := ih hd' (Nat.le_of_succ_le_succ hle) hback'
      exact ⟨ids.next :: tested, Nat.succ_le_succ hlength, .further hb hs hloop⟩
    · exact ⟨[ids.next], Nat.le_add_left 1 d, .found (Bool.eq_false_iff.mpr hb)⟩

theorem loop_acquire {ids : PacketIds} (hn : ids.next ≠ 0) :
    ∃ tested, Loop ids.next ids tested ids.acquire ∧ tested <+: round ids.next := by
  have hpos : 0 < total := by decide
  obtain ⟨tested, hlength, hloop⟩ := loop_search hpos le_rfl (iterate_successor_total hn)
  refine ⟨tested, hloop, ?_⟩
  rw [hloop.tested_eq_iterate, round_eq_iterate hn, ← Nat.min_eq_left hlength, ← List.take_iterate]
  exact List.take_prefix _ _

/-- What is handed out is the first free identifier of the round. -/
theorem round_of_acquire {ids ids' : PacketIds} {id : UInt16} (hn : ids.next ≠ 0)
    (h : ids.acquire = (some id, ids')) :
    ∃ before behind, round ids.next = before ++ id :: behind ∧ (∀ b ∈ before, ids.isBound b) ∧
      ids.isBound id = false ∧ ids' = ⟨successor id, ids.bound.insert id⟩ := by
  obtain ⟨k, hk, hid, hbound, hfree, hids⟩ := search_some h
  obtain ⟨rest, hrest⟩ := Nat.exists_eq_add_of_lt hk
  refine ⟨List.iterate successor ids.next k, List.iterate successor (successor id) rest, ?_, ?_,
    hfree, hids⟩
  · rw [round_eq_iterate hn, hrest, Nat.add_assoc, List.iterate_add, ← hid, List.iterate]
  · intro b hb
    obtain ⟨j, hj, rfl⟩ := List.mem_iterate.mp hb
    exact hbound j hj

/-! ### Pools in use -/

inductive Call
  | acquire
  | release (id : UInt16)
  | releaseAll

def call (ids : PacketIds) : Call → PacketIds
  | .acquire => ids.acquire.2
  | .release id => ids.release id
  | .releaseAll => ids.releaseAll

def after (calls : List Call) : PacketIds := calls.foldl call {}

theorem call_off_zero {ids : PacketIds} (hn : ids.next ≠ 0) (hz : ids.isBound 0 = false)
    (c : Call) : (ids.call c).next ≠ 0 ∧ (ids.call c).isBound 0 = false := by
  cases c with
  | acquire =>
    simp only [call]
    cases h : ids.acquire with
    | mk found ids' =>
      cases found with
      | none =>
        rw [acquire_none h hn]
        exact ⟨hn, hz⟩
      | some id =>
        obtain ⟨-, rfl, hid⟩ := acquire_some h
        refine ⟨successor_ne_zero id, ?_⟩
        rw [isBound_insert, hz, Bool.or_false, decide_eq_false_iff_not]
        exact (hid hn).symm
  | release id => exact ⟨hn, by simp [call, hz]⟩
  | releaseAll => exact ⟨hn, isBound_releaseAll ids 0⟩

theorem after_off_zero (calls : List Call) :
    (after calls).next ≠ 0 ∧ (after calls).isBound 0 = false := by
  induction calls using List.reverseRecOn with
  | nil => exact ⟨by decide, isBound_empty 0⟩
  | append_singleton calls c ih =>
    rw [after, List.foldl_append]
    exact call_off_zero ih.1 ih.2 c

/-- After any calls, a search takes at most one turn for each identifier and ends as a search
without a limit ends; the counter stays between 1 and 65535 in each of them, and is never moved
past the end of its range. If an identifier is free, the first free one of the round is handed out
and bound, and the counter stands behind it. If none is, the pool stays as it was and the session
reports exhaustion. Never is 0 handed out. -/
theorem acquires_first_fit (calls : List Call) :
    let ids := after calls
    (1 ≤ ids.next.toNat ∧ ids.next.toNat ≤ 65535) ∧
    (∃ tested, Loop ids.next ids tested ids.acquire ∧ tested.length ≤ 65535 ∧
      tested <+: round ids.next ∧
      ∀ tested' r, Loop ids.next ids tested' r → tested' = tested ∧ r = ids.acquire) ∧
    (∀ id ∈ round ids.next, 1 ≤ id.toNat ∧ id.toNat ≤ 65535 ∧
      (successor id).toNat = if id.toNat = 65535 then 1 else id.toNat + 1) ∧
    ((∃ id, id ≠ 0 ∧ ids.isBound id = false) →
      ∃ before id behind, round ids.next = before ++ id :: behind ∧
        (∀ b ∈ before, ids.isBound b) ∧ ids.isBound id = false ∧
        ids.acquire.1 = some id ∧ ids.acquire.2.next = successor id ∧
        (∀ other, ids.acquire.2.isBound other = (decide (other = id) || ids.isBound other)) ∧
        ∀ t : Turn, t.session.ids = ids → t.acquire.result = .ok id) ∧
    ((∀ id, id ≠ 0 → ids.isBound id) → ids.acquire = (none, ids) ∧
      ∀ t : Turn, t.session.ids = ids →
        t.acquire.result = .error .identifierExhaustion ∧ t.acquire.turn.session = t.session) ∧
    ids.acquire.1 ≠ some 0 := by
  intro ids
  obtain ⟨hn, hz⟩ := after_off_zero calls
  change ids.next ≠ 0 at hn
  have hrange : ∀ id : UInt16, id ≠ 0 → 1 ≤ id.toNat ∧ id.toNat ≤ 65535 := fun id hid =>
    Finset.mem_Icc.mp (toNat_mem_Icc hid)
  refine ⟨hrange _ hn, ?_, ?_, ?_, ?_, ?_⟩
  · obtain ⟨tested, hloop, hprefix⟩ := loop_acquire hn
    refine ⟨tested, hloop, ?_, hprefix, fun tested' r h => hloop.unique h⟩
    exact hprefix.length_le.trans (length_round hn).le
  · intro id hid
    have hid' := (mem_round hn id).mp hid
    obtain ⟨hpos, hle⟩ := hrange id hid'
    refine ⟨hpos, hle, ?_⟩
    rw [toNat_successor hid', total]
    split_ifs with hlast
    · rw [hlast]
    · rw [Nat.mod_eq_of_lt (by omega)]
  · rintro ⟨free, hfree, hunbound⟩
    cases h : ids.acquire with
    | mk found ids' =>
      cases found with
      | none =>
        have hall := (acquire_eq_none_iff hn).mp (by rw [h])
        rw [hall free hfree] at hunbound
        cases hunbound
      | some id =>
        obtain ⟨before, behind, hround, hbound, hid, rfl⟩ := round_of_acquire hn h
        refine ⟨before, id, behind, hround, hbound, hid, rfl, rfl, isBound_insert ids _ id, ?_⟩
        intro t ht
        simp only [Turn.acquire, ht, h]
  · intro hall
    have hnone : ids.acquire = (none, ids) := by
      have h := (acquire_eq_none_iff hn).mpr hall
      exact Prod.ext h (acquire_none (Prod.ext h rfl) hn)
    refine ⟨hnone, fun t ht => ?_⟩
    simp only [Turn.acquire, ht, hnone]
    exact ⟨rfl, by rw [← ht]; rfl⟩
  · intro hzero
    exact (acquire_some (Prod.ext hzero rfl)).2.2 hn rfl

example :
    (after [.acquire, .acquire, .acquire, .release 2, .acquire]).bound.toList = [1, 3, 4] := by
  decide +kernel

end Mqtt.PacketIds
