import Mqtt.Proofs.FirstFit
import Mqtt.Proofs.Refusals

/-!
# Identifiers come back as late as possible

A search goes on where the one before it ended, whatever was freed in the meantime, and one that
finds nothing leaves the counter where it was. So the identifiers that successive searches look at
make up rounds: before one of them is handed out again, every other one was handed out too, or was
bound when a search came by.
-/

namespace Mqtt

namespace PacketIds

theorem iterate_successor_inj {id : UInt16} (h : id ≠ 0) {j k : ℕ} (hj : j < total)
    (hk : k < total) (he : successor^[j] id = successor^[k] id) : j = k := by
  have hn := congrArg UInt16.toNat he
  rw [toNat_iterate_successor h, toNat_iterate_successor h] at hn
  simp only [total] at hj hk hn
  omega

/-! ### What one search goes by -/

/-- A search comes by the identifier while it is bound, and goes on. -/
def PassesOver (ids : PacketIds) (id : UInt16) : Prop :=
  ids.isBound id ∧ ∃ tested, Loop ids.next ids tested ids.acquire ∧ id ∈ tested

theorem Loop.of_some {start id : UInt16} {ids ids' : PacketIds} {tested : List UInt16}
    (h : Loop start ids tested (some id, ids')) :
    ∃ k, tested = List.iterate successor ids.next (k + 1) ∧ id = successor^[k] ids.next ∧
      ∀ j < k, ids.isBound (successor^[j] ids.next) := by
  generalize hr : (some id, ids') = r at h
  induction h with
  | found _ =>
    cases hr
    exact ⟨0, rfl, rfl, fun j hj => absurd hj (Nat.not_lt_zero j)⟩
  | around _ _ => cases hr
  | further hb _ _ ih =>
    obtain ⟨k, htested, hid, hbound⟩ := ih hr
    refine ⟨k + 1, by rw [htested, List.iterate]; rfl, hid, ?_⟩
    intro j hj
    cases j with
    | zero => exact hb
    | succ j => exact hbound j (Nat.lt_of_succ_lt_succ hj)

theorem passesOver_of_acquire {ids : PacketIds} {id : UInt16} (hn : ids.next ≠ 0)
    (h : ids.acquire.1 = some id) :
    ∃ k < total, id = successor^[k] ids.next ∧
      ∀ j < k, ids.PassesOver (successor^[j] ids.next) := by
  obtain ⟨tested, hloop, hprefix⟩ := loop_acquire hn
  have hfound : ids.acquire = (some id, ids.acquire.2) := Prod.ext h rfl
  obtain ⟨k, htested, hid, hbound⟩ := Loop.of_some (hfound ▸ hloop)
  refine ⟨k, ?_, hid, fun j hj => ⟨hbound j hj, tested, hloop, ?_⟩⟩
  · have hle := hprefix.length_le
    rw [htested, List.length_iterate, length_round hn] at hle
    exact hle
  · rw [htested, List.mem_iterate]
    exact ⟨j, Nat.lt_succ_of_lt hj, rfl⟩

/-! ### Searches one after the other -/

/-- Pools that hand out an identifier each, one after the other: each stands where the search before
it has left the counter. -/
def Successive (next : UInt16) : List PacketIds → Prop
  | [] => True
  | ids :: rest =>
    ids.next = next ∧ ∃ id, ids.acquire.1 = some id ∧ Successive (successor id) rest

namespace Successive

variable {next : UInt16} {gs gs' : List PacketIds}

theorem left (h : Successive next (gs ++ gs')) : Successive next gs := by
  induction gs generalizing next with
  | nil => trivial
  | cons ids gs ih =>
    obtain ⟨hnext, id, hid, hrest⟩ := h
    exact ⟨hnext, id, hid, ih hrest⟩

theorem right (hn : next ≠ 0) (h : Successive next (gs ++ gs')) :
    ∃ next', next' ≠ 0 ∧ Successive next' gs' := by
  induction gs generalizing next with
  | nil => exact ⟨next, hn, h⟩
  | cons ids gs ih =>
    obtain ⟨-, id, -, hrest⟩ := h
    exact ih (successor_ne_zero id) hrest

/-- What lies between the counter and the last place of the round is come by on the way there. -/
theorem reaches {start : UInt16} {p j : ℕ} {last : PacketIds} (hs : start ≠ 0) (hp : p ≤ j)
    (hj : j < total - 1) (h : Successive (successor^[p] start) (gs ++ [last]))
    (hlast : last.acquire.1 = some (successor^[total - 1] start)) :
    (∃ g ∈ gs, g.acquire.1 = some (successor^[j] start)) ∨
      ∃ g ∈ gs ++ [last], g.PassesOver (successor^[j] start) := by
  have hpassed : ∀ {g : PacketIds} {p k : ℕ}, g.next = successor^[p] start → p ≤ j → j < p + k →
      (∀ i < k, g.PassesOver (successor^[i] g.next)) → g.PassesOver (successor^[j] start) := by
    intro g p k hg hp hjk hover
    have hi := hover (j - p) (by omega)
    rwa [hg, ← Function.iterate_add_apply, Nat.sub_add_cancel hp] at hi
  induction gs generalizing p with
  | nil =>
    obtain ⟨hnext, id, hid, -⟩ := h
    have hn : last.next ≠ 0 := hnext ▸ iterate_successor_ne_zero hs p
    obtain ⟨k, hk, heq, hover⟩ := passesOver_of_acquire hn hid
    refine .inr ⟨last, List.mem_singleton_self last, hpassed hnext hp ?_ hover⟩
    -- The search ends at the last place, which is behind this one.
    by_contra hle
    rw [hid, heq, hnext, ← Function.iterate_add_apply] at hlast
    have htotal := iterate_successor_inj hs (by omega) (by omega) (Option.some.inj hlast)
    omega
  | cons g gs ih =>
    obtain ⟨hnext, id, hid, hrest⟩ := h
    have hn : g.next ≠ 0 := hnext ▸ iterate_successor_ne_zero hs p
    obtain ⟨k, -, heq, hover⟩ := passesOver_of_acquire hn hid
    rw [hnext, ← Function.iterate_add_apply] at heq
    rcases Nat.lt_trichotomy j (k + p) with hlt | rfl | hgt
    · exact .inr ⟨g, List.mem_cons_self, hpassed hnext hp (by omega) hover⟩
    · exact .inl ⟨g, List.mem_cons_self, by rw [hid, heq]⟩
    · rw [heq, ← Function.iterate_succ_apply' successor] at hrest
      rcases ih (by omega) hrest with ⟨g', hg', hout⟩ | ⟨g', hg', hout⟩
      · exact .inl ⟨g', List.mem_cons_of_mem g hg', hout⟩
      · exact .inr ⟨g', List.mem_cons_of_mem g hg', hout⟩

end Successive

/-- Between two pools that hand out the same identifier, every other one is handed out too, or is
bound when a search comes by it. -/
def ReusesLast (gs : List PacketIds) : Prop :=
  ∀ earlier first between second later n,
    gs = earlier ++ first :: between ++ second :: later →
    first.acquire.1 = some n → second.acquire.1 = some n →
    ∀ id, id ≠ 0 → id ≠ n →
      (∃ g ∈ between, g.acquire.1 = some id) ∨ ∃ g ∈ between ++ [second], g.PassesOver id

theorem Successive.reusesLast {next : UInt16} {gs : List PacketIds} (hn : next ≠ 0)
    (h : Successive next gs) : ReusesLast gs := by
  rintro earlier first between second later n rfl hfirst hsecond id hz hne
  rw [List.append_assoc] at h
  obtain ⟨next', hn', hbehind⟩ := h.right hn
  have hlap :
      (first :: between) ++ second :: later = (first :: (between ++ [second])) ++ later := by
    simp
  rw [hlap] at hbehind
  obtain ⟨hnext, n', hn'', hrest⟩ := hbehind.left
  obtain rfl : n' = n := Option.some.inj (hn''.symm.trans hfirst)
  have hstart := successor_ne_zero n'
  have hself : successor^[total - 1] (successor n') = n' := by
    obtain ⟨-, -, hnz⟩ := acquire_some (Prod.ext hfirst rfl : first.acquire = (some n', _))
    rw [← Function.iterate_succ_apply]
    exact iterate_successor_total (hnz (hnext ▸ hn'))
  obtain ⟨j, hj, rfl⟩ := exists_iterate_successor hstart hz
  have hlt : j < total - 1 := by
    apply Nat.lt_of_le_of_ne (Nat.le_sub_one_of_lt hj)
    rintro rfl
    exact hne hself
  exact Successive.reaches (p := 0) hstart (Nat.zero_le j) hlt hrest (by rw [hsecond, hself])

/-! ### Pools in use -/

def grants (ids : PacketIds) : List Call → List PacketIds
  | [] => []
  | .acquire :: calls =>
    if ids.acquire.1.isSome then ids :: grants ids.acquire.2 calls
    else grants ids.acquire.2 calls
  | .release id :: calls => grants (ids.release id) calls
  | .releaseAll :: calls => grants ids.releaseAll calls

theorem successive_grants {ids : PacketIds} (hn : ids.next ≠ 0) (calls : List Call) :
    Successive ids.next (grants ids calls) := by
  induction calls generalizing ids with
  | nil => trivial
  | cons c calls ih =>
    cases c with
    | acquire =>
      rw [grants]
      cases h : ids.acquire with
      | mk found ids' =>
        cases found with
        | none =>
          rw [acquire_none h hn]
          exact ih hn
        | some id =>
          obtain ⟨-, rfl, -⟩ := acquire_some h
          have hn' : (⟨successor id, ids.bound.insert id⟩ : PacketIds).next ≠ 0 :=
            successor_ne_zero id
          exact ⟨rfl, id, by rw [h], ih hn'⟩
    | release id =>
      have hn' : (ids.release id).next ≠ 0 := hn
      exact ih hn'
    | releaseAll =>
      have hn' : ids.releaseAll.next ≠ 0 := hn
      exact ih hn'

theorem grants_one_by_one (first : UInt16) (k : ℕ) (calls : List Call) :
    grants { next := first } ((List.replicate k [.acquire, .releaseAll]).flatten ++ calls) =
      (List.iterate successor first k).map (fun id => { next := id }) ++
        grants { next := successor^[k] first } calls := by
  induction k generalizing first with
  | zero => rfl
  | succ k ih =>
    have hacquire : ({ next := first } : PacketIds).acquire =
        (some first, ⟨successor first, (∅ : Std.ExtTreeSet UInt16 compare).insert first⟩) := by
      simp [acquire, total, search]
    rw [List.replicate_succ, List.flatten_cons, List.append_assoc, List.cons_append,
      List.cons_append, grants, hacquire, List.iterate, List.map_cons, List.cons_append]
    exact congrArg (_ :: ·) (ih (successor first))

end PacketIds

namespace Session

open PacketIds

/-- Whether an operation takes an identifier from the pool: a request that needs one does, unless it
is refused. -/
def draws (s : Session) : Input → Bool
  | .request q => q.takesId && (s.refusal? (.request q)).isNone
  | .startConnect _ | .report _ _ | .service | .nextService => false

section Rules

variable {s u v : Session} {fault : Option Error} {input : Input} {packet : Packet}
  {events : List Event} {output : Output} {y : Yield}

theorem Writes.draws_eq (h : Writes s input packet u v events output) (hs : Bookkeeping s) :
    s.draws input = packet.requestId?.isSome := by
  cases hid : packet.requestId? with
  | some id =>
    obtain ⟨q, rfl, hq, -⟩ := h.of_requestId? hid
    simp [draws, hq, h.refusal?_eq_none hs]
  | none =>
    cases h with
    | publishOnce _ _ _ _ _ _ _ | publish _ _ _ _ _ _ _ | subscribe _ _ _ _ _ _
    | unsubscribe _ _ _ _ _ _ => cases hid
    | connect _ _ | puback _ _ _ | pubrec _ _ _ _ _ | pubrel _ _ _ _ | pubcompOnly _ _ _
    | pubcomp _ _ _ _ _ | ping _ | keepAlive _ _ => rfl

theorem Writes.next_eq (h : Writes s input packet u v events output) :
    packet.requestId? = none ∧ u.ids.next = s.ids.next ∧ v.ids.next = s.ids.next ∨
      ∃ id, packet.requestId? = some id ∧ s.ids.acquire.1 = some id ∧
        u.ids.next = successor id ∧ v.ids.next = successor id := by
  cases h with
  | publishOnce _ id ids _ _ ha _ | publish _ id ids _ _ ha _ | subscribe _ id ids _ _ ha
  | unsubscribe _ id ids _ _ ha =>
    obtain ⟨-, rfl, -⟩ := acquire_some ha
    exact .inr ⟨id, rfl, by rw [ha], rfl, rfl⟩
  | pubrec _ _ _ _ hu =>
    subst hu
    exact .inl ⟨rfl, rfl, rfl⟩
  | connect _ _ | puback _ _ _ | pubrel _ _ _ _ | pubcompOnly _ _ _ | pubcomp _ _ _ _ _ | ping _
  | keepAlive _ _ => exact .inl ⟨rfl, rfl, rfl⟩

theorem Idle.draws_eq_false {result : Except Error Output} (h : Idle s input result) :
    s.draws input = false := by
  cases input with
  | request q =>
    obtain ⟨e, -, he⟩ := h.refusal?_eq
    simp [draws, he]
  | startConnect _ | report _ _ | service | nextService => rfl

/-- Whatever an operation does: if it takes an identifier, the counter stands behind that one, and
if it takes none, the counter stands where it stood. -/
theorem Transition.next_eq (h : Transition s fault input y) (hs : Bookkeeping s) :
    s.draws input = false ∧ y.session.ids.next = s.ids.next ∨
      s.draws input = true ∧
        ∃ id, s.ids.acquire.1 = some id ∧ y.session.ids.next = successor id := by
  cases h with
  | idle hi => exact .inl ⟨hi.draws_eq_false, rfl⟩
  | wrote hw _ _ =>
    rw [hw.draws_eq hs]
    rcases hw.next_eq with ⟨hid, -, hv⟩ | ⟨id, hid, ha, -, hv⟩
    · exact .inl ⟨by rw [hid]; rfl, hv⟩
    · exact .inr ⟨by rw [hid]; rfl, id, ha, hv⟩
  | writeFailed hw _ =>
    rw [hw.draws_eq hs]
    rcases hw.next_eq with ⟨hid, hu, -⟩ | ⟨id, hid, ha, hu, -⟩
    · exact .inl ⟨by rw [hid]; rfl, hu⟩
    · exact .inr ⟨by rw [hid]; rfl, id, ha, hu⟩
  | exhausted q ids hc hq hst ha =>
    have hnone : s.ids.acquire.1 = none := by rw [ha]
    have he : s.refusal? (.request q) = some .identifierExhaustion := by
      rw [refusal?_of_connected hc hst, if_pos ⟨hq, hs.acquire_eq_none_iff.mp hnone⟩]
    refine .inl ⟨by simp [draws, he], ?_⟩
    rw [acquire_none ha hs.next_ne_zero]
  | discarded _ _ _ | began _ _ _ _ | failed _ _ | closed _ | accepted _ _ _ | refused _ _ _
  | delivered _ _ _ | completed _ _ _ _ _ _ _ | ponged _ | disconnected _ =>
    exact .inl ⟨rfl, rfl⟩

end Rules

/-- The pool from which a move takes an identifier, as it is found. -/
def Move.pool? (m : Move) : Option PacketIds :=
  if m.before.draws m.action.input then some m.before.ids else none

theorem successive_moves {s : Session} (hs : Bookkeeping s) (as : List Action) :
    Successive s.ids.next ((s.moves as).filterMap Move.pool?) := by
  induction as generalizing s with
  | nil => trivial
  | cons a as ih =>
    generalize hm : Move.mk s a = m
    obtain ⟨rfl, rfl⟩ := Move.mk.inj hm
    have hrest := ih (m.transition.bookkeeping (hs.atTime m.action.now))
    rw [moves_cons, List.filterMap_cons, Move.pool?]
    rcases m.transition.next_eq (hs.atTime m.action.now) with ⟨hd, hnext⟩ | ⟨hd, id, hid, hnext⟩
    · have hd' : m.before.draws m.action.input = false := hd
      have hnext' : m.after.ids.next = m.before.ids.next := hnext
      rw [hd', ← hnext']
      exact hrest
    · have hd' : m.before.draws m.action.input = true := hd
      have hnext' : m.after.ids.next = successor id := hnext
      rw [hd']
      exact ⟨rfl, id, hid, hnext' ▸ hrest⟩

/-- An identifier is handed out as late as possible after it was handed out before: by then every
other one has been handed out since, or was bound when a search came by it that found another. This
holds for all calls on a pool, failed searches among them, and so for all runs of a session, from
one connection to the next, where it is the packets of requests that carry the identifiers. -/
theorem ids_reused_last (calls : List PacketIds.Call) (o : ConnectOptions) (as : List Action) :
    let ms := (new o).moves as
    ReusesLast (grants {} calls) ∧
    ReusesLast (ms.filterMap Move.pool?) ∧
    ∀ m ∈ ms, ∀ x ∈ m.io, ∀ packet id, x.attempted? = some packet →
      packet.requestId? = some id → ∃ ids, m.pool? = some ids ∧ ids.acquire.1 = some id := by
  intro ms
  have hone : ({} : PacketIds).next ≠ 0 := by decide
  refine ⟨(successive_grants hone calls).reusesLast hone,
    (successive_moves (bookkeeping_new o) as).reusesLast hone, ?_⟩
  intro m hm x hx packet id ha hid
  obtain ⟨bs, -, -, hb⟩ := of_mem_moves hm
  have hbook : Bookkeeping m.start := (hb ▸ bookkeeping_run o bs : Bookkeeping m.before).atTime _
  rcases m.transition.attempted hx ha with ⟨u, v, events, output, hw, -⟩ | rfl
  · have hd : m.before.draws m.action.input = true := by
      have heq := hw.draws_eq hbook
      rw [hid] at heq
      exact heq
    obtain ⟨_, -, -, -, -, ⟨ids, hids⟩, -⟩ := hw.of_requestId? hid
    have hids' : m.before.ids.acquire = (some id, ids) := hids
    exact ⟨m.before.ids, by rw [Move.pool?, hd]; rfl, by rw [hids']⟩
  · cases hid

/-- A pool that gives out one identifier at a time, until it gives out the first one again. -/
theorem ids_reused_last_one_by_one :
    let calls := (List.replicate total [PacketIds.Call.acquire, .releaseAll]).flatten ++ [.acquire]
    let between := (List.iterate successor 2 (total - 1)).map fun id => ({ next := id } : PacketIds)
    grants {} calls = ({} : PacketIds) :: between ++ [({} : PacketIds)] ∧
      (({} : PacketIds).acquire.1 = some 1) ∧ ∃ ids ∈ between, ids.acquire.1 = some 77 := by
  intro calls between
  have hone : ({} : PacketIds).acquire.1 = some 1 := by simp [acquire, total, search]
  have hgrants : grants {} calls = ({} : PacketIds) :: between ++ [({} : PacketIds)] := by
    have hround : List.iterate successor 1 total = 1 :: List.iterate successor 2 (total - 1) := rfl
    have hlast : grants {} [.acquire] = [({} : PacketIds)] := by rw [grants, hone]; rfl
    rw [grants_one_by_one, iterate_successor_total (by decide), hround, hlast]
    rfl
  refine ⟨hgrants, hone, ?_⟩
  obtain ⟨hreuse, -⟩ := ids_reused_last calls {} []
  rcases hreuse [] _ between _ [] 1 hgrants hone hone 77 (by decide) (by decide) with h | h
  · exact h
  · obtain ⟨ids, hids, hbound, -⟩ := h
    have hempty : ids.isBound 77 = false := by
      rcases List.mem_append.mp hids with hin | hin
      · obtain ⟨id, -, rfl⟩ := List.mem_map.mp hin
        exact Std.ExtTreeSet.contains_empty
      · cases List.mem_singleton.mp hin
        exact isBound_empty 77
    rw [hempty] at hbound
    cases hbound

end Session

end Mqtt
