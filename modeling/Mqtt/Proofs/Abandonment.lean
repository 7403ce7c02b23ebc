import Mqtt.Proofs.Pending

/-!
# Giving everything up

What is in flight is kept in a table and two sets, and giving it up empties them one after the other,
in whatever order each of them yields its elements, and sorts the result. The order of the elements
leaves no trace: two operations of one kind never share an identifier, and of those that do the sort
keeps publishes before subscribes before unsubscribes. All this holds of every record, also of one
that is used without regard for which identifiers are free.
-/

namespace Mqtt

/-- The place among operations of one identifier. -/
def Abandoned.rank : Abandoned → Nat
  | publish _ => 0
  | subscribe _ => 1
  | unsubscribe _ => 2

/-- Of two operations with one identifier, the first ranks below the second. -/
def Abandoned.BreaksTie (a b : Abandoned) : Prop := a.packetId = b.packetId → a.rank < b.rank

def Abandoned.Precedes (a b : Abandoned) : Prop :=
  a.packetId < b.packetId ∨ a.packetId = b.packetId ∧ a.rank < b.rank

theorem Abandoned.Precedes.asymm {a b : Abandoned} (hab : a.Precedes b) : ¬b.Precedes a := by
  rintro (hlt | ⟨heq, hrank⟩) <;> rcases hab with hlt' | ⟨heq', hrank'⟩
  · exact UInt16.lt_asymm hlt hlt'
  · exact UInt16.ne_of_lt hlt heq'.symm
  · exact UInt16.ne_of_lt hlt' heq.symm
  · omega

namespace Inflight

/-! ### Records in use -/

inductive Ack
  | puback
  | pubrec
  | pubcomp
  | suback
  | unsuback

def acknowledge (f : Inflight) (id : UInt16) : Ack → Option Inflight
  | .puback => f.onPuback id
  | .pubrec => f.onPubrec id
  | .pubcomp => f.onPubcomp id
  | .suback => f.onSuback id
  | .unsuback => f.onUnsuback id

inductive Call
  | trackPublish (packet : Publish)
  | trackSubscribe (id : UInt16)
  | trackUnsubscribe (id : UInt16)
  | acknowledge (kind : Ack) (id : UInt16)
  | hold (packet : Publish)
  | unhold (id : UInt16)
  | abandon
  | dropHeld

def Call.tracks : Call → Bool
  | trackPublish _ | trackSubscribe _ | trackUnsubscribe _ => true
  | acknowledge _ _ | hold _ | unhold _ | abandon | dropHeld => false

def call (f : Inflight) : Call → Inflight
  | .trackPublish packet => f.trackPublish packet
  | .trackSubscribe id => f.trackSubscribe id
  | .trackUnsubscribe id => f.trackUnsubscribe id
  | .acknowledge kind id => (f.acknowledge id kind).getD f
  | .hold packet => (f.hold packet).getD f
  | .unhold id => ((f.unhold id).map Prod.snd).getD f
  | .abandon => f.abandon.2
  | .dropHeld => f.dropHeld

def after (f : Inflight) (calls : List Call) : Inflight := calls.foldl call f

theorem after_induction {P : Inflight → Prop} {f : Inflight} {calls : List Call} (hf : P f)
    (hc : ∀ g, P g → ∀ c ∈ calls, P (g.call c)) : P (f.after calls) := by
  induction calls generalizing f with
  | nil => exact hf
  | cons c calls ih =>
    exact ih (hc f hf c List.mem_cons_self) fun g hg d hd => hc g hg d (List.mem_cons_of_mem c hd)

/-! ### Where publishes stand -/

theorem packet_of_acknowledge {f g : Inflight} {a id : UInt16} {kind : Ack}
    {pending : PendingPublish} (hg : f.acknowledge a kind = some g)
    (hl : g.publishes[id]? = some pending) :
    ∃ earlier, f.publishes[id]? = some earlier ∧ earlier.packet = pending.packet := by
  have hcompleted : ∀ phase, f.completePublish a phase = some g →
      ∃ earlier, f.publishes[id]? = some earlier ∧ earlier.packet = pending.packet := by
    intro phase hc
    obtain ⟨_, -, -, rfl⟩ := completePublish_some hc
    rw [Std.ExtTreeMap.getElem?_erase] at hl
    split_ifs at hl
    exact ⟨pending, hl, rfl⟩
  cases kind with
  | puback => exact hcompleted _ hg
  | pubcomp => exact hcompleted _ hg
  | pubrec =>
    simp only [acknowledge, onPubrec] at hg
    split at hg
    · next earlier he =>
      split at hg
      · cases hg
      · cases hg
        rw [Std.ExtTreeMap.getElem?_insert] at hl
        split_ifs at hl with hid
        · cases Std.LawfulEqCmp.eq_of_compare hid
          cases hl
          exact ⟨earlier, he, rfl⟩
        · exact ⟨pending, hl, rfl⟩
      · cases hg
        exact ⟨pending, hl, rfl⟩
    · cases hg
  | suback =>
    simp only [acknowledge, onSuback] at hg
    split_ifs at hg
    cases hg
    exact ⟨pending, hl, rfl⟩
  | unsuback =>
    simp only [acknowledge, onUnsuback] at hg
    split_ifs at hg
    cases hg
    exact ⟨pending, hl, rfl⟩

/-- Each publish stands under its own identifier. -/
def Filed (f : Inflight) : Prop :=
  ∀ (id : UInt16) (pending : PendingPublish),
    f.publishes[id]? = some pending → pending.packet.packetId = id

theorem filed_empty : Filed {} := by
  intro id pending hl
  simp at hl

theorem Filed.call {f : Inflight} (h : f.Filed) (c : Call) : (f.call c).Filed := by
  cases c with
  | trackPublish packet =>
    intro id pending hl
    simp only [Inflight.call, trackPublish, Std.ExtTreeMap.getElem?_insert] at hl
    split_ifs at hl with hid
    · cases hl
      exact Std.LawfulEqCmp.eq_of_compare hid
    · exact h id pending hl
  | acknowledge kind a =>
    intro id pending hl
    simp only [Inflight.call] at hl
    cases hg : f.acknowledge a kind with
    | none =>
      rw [hg] at hl
      exact h id pending hl
    | some g =>
      rw [hg] at hl
      obtain ⟨earlier, he, hp⟩ := packet_of_acknowledge hg hl
      rw [← hp]
      exact h id earlier he
  | hold packet =>
    simp only [Inflight.call, hold]
    split
    · exact h
    · exact h
  | unhold id =>
    simp only [Inflight.call, unhold]
    split
    · exact h
    · exact h
  | abandon => exact filed_empty
  | trackSubscribe _ | trackUnsubscribe _ | dropHeld => exact h

theorem filed_after (calls : List Call) : (after {} calls).Filed :=
  after_induction filed_empty fun _ h c _ => h.call c

/-! ### Stability -/

theorem filter_byId (operations : List Abandoned) (id : UInt16) :
    (byId operations).filter (fun a => a.packetId = id) =
      operations.filter fun a => a.packetId = id := by
  have hsorted : (operations.filter fun a => a.packetId = id).Pairwise
      fun a b => decide (a.packetId ≤ b.packetId) := by
    rw [List.pairwise_filter]
    refine List.pairwise_of_forall fun a b ha hb => ?_
    rw [decide_eq_true_eq] at ha hb ⊢
    rw [ha, hb]
    exact UInt16.le_refl id
  have hsub : (operations.filter fun a => a.packetId = id).Sublist
      ((byId operations).filter fun a => a.packetId = id) := by
    have h := (List.sublist_mergeSort packetId_le_trans packetId_le_total hsorted
      List.filter_sublist).filter fun a => a.packetId = id
    rwa [List.filter_filter, funext fun a => Bool.and_self _] at h
  exact (hsub.eq_of_length ((List.mergeSort_perm _ _).filter _).length_eq.symm).symm

/-- A list that has the operations of each identifier by rank is sorted into the order of what is
given up. -/
theorem pairwise_precedes_byId {operations : List Abandoned}
    (h : operations.Pairwise Abandoned.BreaksTie) :
    (byId operations).Pairwise Abandoned.Precedes := by
  have hties : (byId operations).Pairwise Abandoned.BreaksTie := by
    rw [List.pairwise_iff_forall_sublist]
    intro a b hab heq
    have hboth : [a, b].Sublist (operations.filter fun c => c.packetId = a.packetId) := by
      rw [← filter_byId]
      have hfilter := hab.filter fun c => c.packetId = a.packetId
      simpa [heq] using hfilter
    exact List.pairwise_iff_forall_sublist.mp h (hboth.trans List.filter_sublist) heq
  refine ((pairwise_byId operations).and hties).imp fun {a b} hab => ?_
  by_cases heq : a.packetId = b.packetId
  · exact .inr ⟨heq, hab.2 heq⟩
  · exact .inl (UInt16.lt_of_le_of_ne hab.1 heq)

/-! ### Any order of elements -/

/-- What the table and the two sets yield one after the other, if they yield these elements in this
order. -/
def drained (entries : List (UInt16 × PendingPublish)) (subscribes unsubscribes : List UInt16) :
    List Abandoned :=
  entries.map (fun entry => .publish entry.2.packet) ++ subscribes.map .subscribe ++
    unsubscribes.map .unsubscribe

section Order

variable {f : Inflight} {entries : List (UInt16 × PendingPublish)}
  {subscribes unsubscribes : List UInt16}

theorem drained_perm_pending (he : entries.Perm f.publishes.toList)
    (hs : subscribes.Perm f.subscribes.toList) (hu : unsubscribes.Perm f.unsubscribes.toList) :
    (drained entries subscribes unsubscribes).Perm f.pending :=
  ((he.map _).append (hs.map _)).append (hu.map _)

theorem Filed.breaksTie_drained (h : f.Filed) (he : entries.Perm f.publishes.toList)
    (hs : subscribes.Perm f.subscribes.toList) (hu : unsubscribes.Perm f.unsubscribes.toList) :
    (drained entries subscribes unsubscribes).Pairwise Abandoned.BreaksTie := by
  -- Operations of one kind have no ties to break.
  have hkind : ∀ {operations : List Abandoned}, (operations.map Abandoned.packetId).Nodup →
      operations.Pairwise Abandoned.BreaksTie := fun hn =>
    (List.pairwise_map.mp hn).imp fun hne heq => absurd heq hne
  have hentries : (entries.map fun entry => entry.2.packet.packetId).Nodup := by
    have hfiled : ∀ entry ∈ entries, entry.2.packet.packetId = entry.1 := by
      rintro ⟨id, pending⟩ hin
      exact h id pending (Std.ExtTreeMap.mem_toList_iff_getElem?_eq_some.mp (he.mem_iff.mp hin))
    rw [List.map_congr_left hfiled, (he.map Prod.fst).nodup_iff,
      Std.ExtTreeMap.map_fst_toList_eq_keys]
    exact Std.ExtTreeMap.nodup_keys
  have hset : ∀ {ids : List UInt16} {s : Std.ExtTreeSet UInt16 compare}, ids.Perm s.toList →
      (ids.map id).Nodup := by
    intro ids s hp
    rw [List.map_id, hp.nodup_iff]
    exact PacketIds.nodup_toList s
  refine List.pairwise_append.mpr ⟨List.pairwise_append.mpr ⟨hkind ?_, hkind ?_, ?_⟩,
    hkind ?_, ?_⟩
  · rw [List.map_map]
    exact hentries
  · rw [List.map_map]
    exact hset hs
  · simp only [List.mem_map]
    rintro _ ⟨_, -, rfl⟩ _ ⟨_, -, rfl⟩ -
    exact Nat.zero_lt_one
  · rw [List.map_map]
    exact hset hu
  · simp only [List.mem_append, List.mem_map]
    rintro _ (⟨_, -, rfl⟩ | ⟨_, -, rfl⟩) _ ⟨_, -, rfl⟩ -
    · exact Nat.zero_lt_two
    · exact Nat.one_lt_two

theorem Filed.pairwise_precedes_abandon (h : f.Filed) :
    f.abandon.1.Pairwise Abandoned.Precedes :=
  pairwise_precedes_byId (h.breaksTie_drained (.refl _) (.refl _) (.refl _))

theorem Filed.byId_drained (h : f.Filed) (he : entries.Perm f.publishes.toList)
    (hs : subscribes.Perm f.subscribes.toList) (hu : unsubscribes.Perm f.unsubscribes.toList) :
    byId (drained entries subscribes unsubscribes) = f.abandon.1 := by
  have hperm : (byId (drained entries subscribes unsubscribes)).Perm f.abandon.1 :=
    (List.mergeSort_perm _ _).trans
      ((drained_perm_pending he hs hu).trans f.perm_abandon.symm)
  have hsorted := pairwise_precedes_byId (h.breaksTie_drained he hs hu)
  refine List.Perm.eq_of_pairwise ?_ hsorted h.pairwise_precedes_abandon hperm
  intro a b _ _ hab hba
  exact absurd hba hab.asymm

end Order

/-! ### What is pending, and what is left -/

def waits (f : Inflight) : Abandoned → Bool
  | .publish packet => f.publishes[packet.packetId]?.any (·.packet = packet)
  | .subscribe id => f.subscribes.contains id
  | .unsubscribe id => f.unsubscribes.contains id

theorem Filed.mem_pending_iff {f : Inflight} (h : f.Filed) (operation : Abandoned) :
    operation ∈ f.pending ↔ f.waits operation = true := by
  simp only [Inflight.pending, List.mem_append, List.mem_map]
  cases operation with
  | publish packet =>
    simp only [waits, Option.any_eq_true, decide_eq_true_eq, Abandoned.publish.injEq]
    constructor
    · rintro ((⟨⟨id, pending⟩, hin, rfl⟩ | ⟨_, -, hne⟩) | ⟨_, -, hne⟩)
      · have hl := Std.ExtTreeMap.mem_toList_iff_getElem?_eq_some.mp hin
        exact ⟨pending, by rw [h id pending hl]; exact hl, rfl⟩
      · cases hne
      · cases hne
    · rintro ⟨pending, hl, rfl⟩
      exact .inl (.inl ⟨⟨_, pending⟩, Std.ExtTreeMap.mem_toList_iff_getElem?_eq_some.mpr hl, rfl⟩)
  | subscribe id => simp [waits]
  | unsubscribe id => simp [waits]

/-- Each pending operation is given up once, and nothing else is. -/
theorem Filed.count_abandon {f : Inflight} (h : f.Filed) (operation : Abandoned) :
    f.abandon.1.count operation = if f.waits operation then 1 else 0 := by
  have hnodup : f.abandon.1.Nodup := by
    refine h.pairwise_precedes_abandon.imp fun {a b} hab heq => ?_
    subst heq
    exact hab.asymm hab
  rw [hnodup.count]
  simp only [f.perm_abandon.mem_iff, h.mem_pending_iff]

def Quiet (f : Inflight) : Prop := f.publishes = ∅ ∧ f.subscribes = ∅ ∧ f.unsubscribes = ∅

namespace Quiet

variable {f : Inflight} (h : f.Quiet)
include h

theorem acknowledge_eq_none (kind : Ack) (id : UInt16) : f.acknowledge id kind = none := by
  obtain ⟨hp, hs, hu⟩ := h
  cases kind <;>
    simp [acknowledge, onPuback, onPubrec, onPubcomp, onSuback, onUnsuback, completePublish,
      hp, hs, hu]

theorem call {c : Call} (hc : c.tracks = false) : (f.call c).Quiet := by
  cases c with
  | trackPublish _ | trackSubscribe _ | trackUnsubscribe _ => cases hc
  | acknowledge kind id =>
    rw [Inflight.call, h.acknowledge_eq_none]
    exact h
  | hold packet =>
    simp only [Inflight.call, Inflight.hold]
    split <;> exact h
  | unhold id =>
    simp only [Inflight.call, Inflight.unhold]
    split <;> exact h
  | abandon => exact ⟨rfl, rfl, rfl⟩
  | dropHeld => exact h

end Quiet

/-- After any calls, giving up yields each pending operation once and nothing else, in the order of
identifiers, and of one identifier the publish before the subscribe before the unsubscribe. A publish
is the one that was stored, and stands under its own identifier. The order in which the table and the
sets yield their elements does not matter. Nothing is pending then, and what is held stays; and until
something is tracked again, no acknowledgement of any kind completes or advances anything. -/
theorem abandons_each_once (calls : List Call) :
    let f := after {} calls
    (∀ (id : UInt16) (pending : PendingPublish),
      f.publishes[id]? = some pending → pending.packet.packetId = id) ∧
    (∀ operation, f.abandon.1.count operation = if f.waits operation then 1 else 0) ∧
    f.abandon.1.Pairwise Abandoned.Precedes ∧
    (∀ entries subscribes unsubscribes, entries.Perm f.publishes.toList →
      subscribes.Perm f.subscribes.toList → unsubscribes.Perm f.unsubscribes.toList →
        byId (drained entries subscribes unsubscribes) = f.abandon.1) ∧
    f.abandon.2.pendingCount = 0 ∧ f.abandon.2.held = f.held ∧
    ∀ later, (∀ c ∈ later, c.tracks = false) →
      (∀ operation, (f.abandon.2.after later).waits operation = false) ∧
      ∀ kind id, (f.abandon.2.after later).acknowledge id kind = none := by
  intro f
  have hf : f.Filed := filed_after calls
  refine ⟨hf, hf.count_abandon, hf.pairwise_precedes_abandon, ?_, f.pendingCount_abandon,
    f.held_abandon, ?_⟩
  · intro entries subscribes unsubscribes he hs hu
    exact hf.byId_drained he hs hu
  · intro later hlater
    have hquiet : (f.abandon.2.after later).Quiet :=
      after_induction ⟨rfl, rfl, rfl⟩ fun _ hg c hc => hg.call (hlater c hc)
    refine ⟨fun operation => ?_, fun kind id => hquiet.acknowledge_eq_none kind id⟩
    obtain ⟨hp, hs, hu⟩ := hquiet
    cases operation <;> simp [waits, hp, hs, hu]

example :
    let publish : Publish := ⟨7, "a", .exactlyOnce, false, false, .empty⟩
    (after {} [.trackUnsubscribe 7, .trackSubscribe 9, .trackPublish publish, .trackSubscribe 7,
      .acknowledge .pubrec 7, .hold publish]).abandon.1 =
      [.publish publish, .subscribe 7, .unsubscribe 7, .subscribe 9] := by
  cbv

end Inflight

end Mqtt
