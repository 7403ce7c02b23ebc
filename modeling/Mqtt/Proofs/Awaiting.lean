import Mqtt.Proofs.Account
import Mqtt.Proofs.Custody

/-!
# What operations wait for

The exchange of an operation is the list of acknowledgements that complete it, and `Inflight.awaits`
is the rest of it that is still to come. An acknowledgement counts only if it is the next one that
is waited for; so an exchange is over once it is a sublist of what has come in.
-/

namespace Mqtt

/-- The kind and the identifier of a packet that acknowledges an operation of the client. -/
def Packet.ack? : Packet → Option (PacketKind × UInt16)
  | puback id => some (.puback, id)
  | pubrec id => some (.pubrec, id)
  | pubcomp id => some (.pubcomp, id)
  | suback packet => some (.suback, packet.packetId)
  | unsuback id => some (.unsuback, id)
  | connect _ | connack _ | publish _ | pubrel _ | subscribe _ | unsubscribe _ | pingreq | pingresp
  | disconnect => none

theorem Packet.ack?_of_completion {packet : Packet} {a : UInt16} {event : Event}
    (h : packet.completion = some (a, event)) : ∃ kind, packet.ack? = some (kind, a) := by
  cases packet <;> cases h <;> exact ⟨_, rfl⟩

theorem Packet.eq_pubrec_or_completion {packet : Packet} {kind : PacketKind} {a : UInt16}
    (h : packet.ack? = some (kind, a)) : packet = .pubrec a ∧ kind = .pubrec ∨
      ∃ event, packet.completion = some (a, event) := by
  cases packet <;> cases h <;> first | exact .inl ⟨rfl, rfl⟩ | exact .inr ⟨_, rfl⟩

theorem Packet.ack?_of_isClients {packet : Packet} (h : packet.isClients) :
    packet.ack? = none := by
  cases packet with
  | connect _ | subscribe _ | unsubscribe _ | pingreq | disconnect => rfl
  | connack _ | publish _ | puback _ | pubrec _ | pubrel _ | pubcomp _ | suback _ | unsuback _
  | pingresp => cases h

/-- The acknowledgements that complete an operation, in order. -/
def Abandoned.exchange : Abandoned → List PacketKind
  | publish packet =>
    match packet.qos with
    | .atMostOnce => []
    | .atLeastOnce => [.puback]
    | .exactlyOnce => [.pubrec, .pubcomp]
  | subscribe _ => [.suback]
  | unsubscribe _ => [.unsuback]

def Phase.awaits : Phase → List PacketKind
  | awaitingAck => [.puback]
  | awaitingReceipt => [.pubrec, .pubcomp]
  | awaitingCompletion => [.pubcomp]

theorem Phase.awaits_ne_nil (phase : Phase) : phase.awaits ≠ [] := by
  cases phase <;> exact List.cons_ne_nil _ _

theorem Phase.eq_of_awaits_puback {phase : Phase} (h : phase.awaits.head? = some .puback) :
    phase = .awaitingAck := by
  cases phase with
  | awaitingAck => rfl
  | awaitingReceipt => cases h
  | awaitingCompletion => cases h

theorem Phase.eq_of_awaits_pubcomp {phase : Phase} (h : phase.awaits.head? = some .pubcomp) :
    phase = .awaitingCompletion := by
  cases phase with
  | awaitingAck => cases h
  | awaitingReceipt => cases h
  | awaitingCompletion => rfl

theorem Phase.head?_awaits_ne (phase : Phase) :
    phase.awaits.head? ≠ some .suback ∧ phase.awaits.head? ≠ some .unsuback := by
  cases phase <;> decide

def advance (rest : List PacketKind) (kind : PacketKind) : List PacketKind :=
  if rest.head? = some kind then rest.tail else rest

theorem advance_nil (kind : PacketKind) : advance [] kind = [] := rfl

theorem advance_cons_self (kind : PacketKind) (rest : List PacketKind) :
    advance (kind :: rest) kind = rest := if_pos rfl

theorem advance_of_ne {rest : List PacketKind} {kind : PacketKind} (h : rest.head? ≠ some kind) :
    advance rest kind = rest := if_neg h

theorem eq_singleton_of_advance_eq_nil {rest : List PacketKind} {kind : PacketKind}
    (h : advance rest kind = []) (hne : rest ≠ []) : rest = [kind] := by
  cases rest with
  | nil => exact absurd rfl hne
  | cons next rest =>
    by_cases hn : next = kind
    · subst hn
      rw [advance_cons_self] at h
      rw [h]
    · have hh : (next :: rest).head? ≠ some kind := fun he => hn (Option.some.inj he)
      rw [advance_of_ne hh] at h
      cases h

/-- An exchange is over once it is a sublist of the acknowledgements that have come in. -/
theorem foldl_advance_eq_nil_iff (rest kinds : List PacketKind) :
    kinds.foldl advance rest = [] ↔ rest.Sublist kinds := by
  induction kinds generalizing rest with
  | nil => rw [List.foldl_nil, List.sublist_nil]
  | cons kind kinds ih =>
    rw [List.foldl_cons, ih]
    cases rest with
    | nil => simp [advance_nil]
    | cons next rest =>
      by_cases h : next = kind
      · subst h
        rw [advance_cons_self, List.cons_sublist_cons]
      · have hne : (next :: rest).head? ≠ some kind := fun he => h (Option.some.inj he)
        rw [advance_of_ne hne, List.sublist_cons_iff]
        constructor
        · exact .inl
        · rintro (hsub | ⟨_, he, -⟩)
          · exact hsub
          · exact absurd (List.cons.inj he).1 h

namespace Inflight

/-- The acknowledgements that the operation under an identifier still waits for. -/
def awaits (f : Inflight) (id : UInt16) : List PacketKind :=
  match f.publishes[id]? with
  | some pending => pending.phase.awaits
  | none =>
    if id ∈ f.subscribes then [.suback] else if id ∈ f.unsubscribes then [.unsuback] else []

theorem awaits_of_publish {f : Inflight} {id : UInt16} {pending : PendingPublish}
    (h : f.publishes[id]? = some pending) : f.awaits id = pending.phase.awaits := by
  simp only [awaits, h]

theorem awaits_of_not_mem {f : Inflight} {id : UInt16} (h : id ∉ f.publishes) :
    f.awaits id = if id ∈ f.subscribes then [.suback]
      else if id ∈ f.unsubscribes then [.unsuback] else [] := by
  simp only [awaits, Std.ExtTreeMap.getElem?_eq_none h]

theorem awaits_congr {f g : Inflight} {id : UInt16} (hp : g.publishes[id]? = f.publishes[id]?)
    (hs : id ∈ g.subscribes ↔ id ∈ f.subscribes)
    (hu : id ∈ g.unsubscribes ↔ id ∈ f.unsubscribes) : g.awaits id = f.awaits id := by
  simp only [awaits, hp, hs, hu]

theorem awaits_eq_nil_iff (f : Inflight) (id : UInt16) :
    f.awaits id = [] ↔ f.operation? id = none := by
  by_cases hp : id ∈ f.publishes
  · obtain ⟨pending, hl⟩ := (f.mem_publishes_iff id).mp hp
    rw [awaits_of_publish hl, operation?_of_publish hl]
    simp [Phase.awaits_ne_nil]
  · rw [awaits_of_not_mem hp, operation?_of_not_mem hp]
    split_ifs <;> simp

theorem of_head?_awaits {f : Inflight} {id : UInt16} {kind : PacketKind}
    (h : (f.awaits id).head? = some kind) :
    (∃ pending, f.publishes[id]? = some pending ∧ pending.phase.awaits.head? = some kind) ∨
      id ∈ f.subscribes ∧ kind = .suback ∨ id ∈ f.unsubscribes ∧ kind = .unsuback := by
  by_cases hp : id ∈ f.publishes
  · obtain ⟨pending, hl⟩ := (f.mem_publishes_iff id).mp hp
    rw [awaits_of_publish hl] at h
    exact .inl ⟨pending, hl, h⟩
  · rw [awaits_of_not_mem hp] at h
    split_ifs at h with hs hu
    · exact .inr (.inl ⟨hs, (Option.some.inj h).symm⟩)
    · exact .inr (.inr ⟨hu, (Option.some.inj h).symm⟩)
    · cases h

theorem awaits_insert (f : Inflight) (a : UInt16) (pending : PendingPublish) (id : UInt16) :
    awaits { f with publishes := f.publishes.insert a pending } id =
      if id = a then pending.phase.awaits else f.awaits id := by
  by_cases h : id = a
  · subst h
    rw [if_pos rfl]
    exact awaits_of_publish (f := { f with publishes := f.publishes.insert id pending })
      Std.ExtTreeMap.getElem?_insert_self
  · have h' : a ≠ id := fun he => h he.symm
    rw [if_neg h]
    apply awaits_congr
    · simp [Std.ExtTreeMap.getElem?_insert, h']
    · rfl
    · rfl

theorem awaits_ne_pubrec (f : Inflight) (id : UInt16) : f.awaits id ≠ [.pubrec] := by
  by_cases hp : id ∈ f.publishes
  · obtain ⟨pending, hl⟩ := (f.mem_publishes_iff id).mp hp
    rw [awaits_of_publish hl]
    cases pending.phase <;> decide
  · rw [awaits_of_not_mem hp]
    split_ifs <;> decide

theorem awaits_trackSubscribe {f : Inflight} {a : UInt16} (ha : f.operation? a = none) :
    (f.trackSubscribe a).awaits a = [.suback] := by
  obtain ⟨hp, -, -⟩ := (f.operation?_eq_none_iff a).mp ha
  rw [awaits_of_not_mem (f := f.trackSubscribe a) hp]
  simp [trackSubscribe]

theorem awaits_trackUnsubscribe {f : Inflight} {a : UInt16} (ha : f.operation? a = none) :
    (f.trackUnsubscribe a).awaits a = [.unsuback] := by
  obtain ⟨hp, hs, -⟩ := (f.operation?_eq_none_iff a).mp ha
  rw [awaits_of_not_mem (f := f.trackUnsubscribe a) hp]
  simp [trackUnsubscribe, hs]

theorem completePublish_none {f : Inflight} {a : UInt16} {phase : Phase}
    (h : f.completePublish a phase = none) {pending : PendingPublish}
    (hl : f.publishes[a]? = some pending) : pending.phase ≠ phase := by
  intro hp
  simp [completePublish, hl, hp] at h

theorem head?_awaits_of_onAck {f : Inflight} {packet : Packet} {kind : PacketKind} {a : UInt16}
    (hc : packet.completion.isSome) (hk : packet.ack? = some (kind, a))
    (hn : f.onAck packet = none) : (f.awaits a).head? ≠ some kind := by
  intro hh
  rcases of_head?_awaits hh with ⟨pending, hl, hp⟩ | ⟨hs, rfl⟩ | ⟨hu, rfl⟩
  · cases packet with
    | puback id =>
      cases hk
      exact completePublish_none hn hl (Phase.eq_of_awaits_puback hp)
    | pubcomp id =>
      cases hk
      exact completePublish_none hn hl (Phase.eq_of_awaits_pubcomp hp)
    | suback packet =>
      cases hk
      exact pending.phase.head?_awaits_ne.1 hp
    | unsuback id =>
      cases hk
      exact pending.phase.head?_awaits_ne.2 hp
    | pubrec id => cases hc
    | connect _ | connack _ | publish _ | pubrel _ | subscribe _ | unsubscribe _ | pingreq
    | pingresp | disconnect => cases hk
  · cases packet <;> cases hk
    simp [onAck, onSuback, hs] at hn
  · cases packet <;> cases hk
    simp [onAck, onUnsuback, hu] at hn

theorem awaits_onAck_of_ne {f g : Inflight} {packet : Packet} {a id : UInt16} {event : Event}
    (hc : packet.completion = some (a, event)) (hg : f.onAck packet = some g) (hne : a ≠ id) :
    g.awaits id = f.awaits id := by
  cases packet with
  | puback b =>
    cases hc
    obtain ⟨-, -, -, rfl⟩ := completePublish_some hg
    exact awaits_congr (by simp [Std.ExtTreeMap.getElem?_erase, hne]) .rfl .rfl
  | pubcomp b =>
    cases hc
    obtain ⟨-, -, -, rfl⟩ := completePublish_some hg
    exact awaits_congr (by simp [Std.ExtTreeMap.getElem?_erase, hne]) .rfl .rfl
  | suback packet =>
    cases hc
    simp only [onAck, onSuback] at hg
    split_ifs at hg
    cases hg
    exact awaits_congr rfl (by simp [hne]) .rfl
  | unsuback b =>
    cases hc
    simp only [onAck, onUnsuback] at hg
    split_ifs at hg
    cases hg
    exact awaits_congr rfl .rfl (by simp [hne])
  | connect _ | connack _ | publish _ | pubrec _ | pubrel _ | subscribe _ | unsubscribe _ | pingreq
  | pingresp | disconnect => cases hc

namespace Orderly

variable {f : Inflight} (h : f.Orderly)
include h

theorem awaits_of_onAck {packet : Packet} {kind : PacketKind} {a : UInt16} {g : Inflight}
    (hc : packet.completion.isSome) (hk : packet.ack? = some (kind, a))
    (hg : f.onAck packet = some g) : f.awaits a = [kind] := by
  cases packet with
  | puback b =>
    cases hk
    obtain ⟨pending, hl, hp, -⟩ := completePublish_some hg
    rw [awaits_of_publish hl, hp]
    rfl
  | pubcomp b =>
    cases hk
    obtain ⟨pending, hl, hp, -⟩ := completePublish_some hg
    rw [awaits_of_publish hl, hp]
    rfl
  | suback packet =>
    cases hk
    simp only [Inflight.onAck, onSuback] at hg
    split_ifs at hg with hs
    have hs' : packet.packetId ∈ f.subscribes := Std.ExtTreeSet.contains_iff_mem.mp hs
    rw [awaits_of_not_mem fun hp => h.not_mem_subscribes _ hp hs', if_pos hs']
  | unsuback b =>
    cases hk
    simp only [Inflight.onAck, onUnsuback] at hg
    split_ifs at hg with hu
    have hu' : a ∈ f.unsubscribes := Std.ExtTreeSet.contains_iff_mem.mp hu
    rw [awaits_of_not_mem fun hp => h.not_mem_unsubscribes _ hp hu',
      if_neg fun hs => h.disjoint _ hs hu', if_pos hu']
  | pubrec _ => cases hc
  | connect _ | connack _ | publish _ | pubrel _ | subscribe _ | unsubscribe _ | pingreq
  | pingresp | disconnect => cases hk

theorem awaits_onAck {packet : Packet} {kind : PacketKind} {a : UInt16} {event : Event}
    {g : Inflight} (hc : packet.completion = some (a, event)) (hk : packet.ack? = some (kind, a))
    (hg : f.onAck packet = some g) (id : UInt16) :
    g.awaits id = if id = a then advance (f.awaits a) kind else f.awaits id := by
  split_ifs with he
  · subst he
    rw [h.awaits_of_onAck (by rw [hc]; rfl) hk hg, advance_cons_self, awaits_eq_nil_iff,
      (h.onAck hc hg).2.2.2.2, if_pos rfl]
  · exact awaits_onAck_of_ne hc hg fun hai => he hai.symm

end Orderly

/-! ### Receipts -/

theorem onPubrec_eq_none_iff (f : Inflight) (a : UInt16) : f.onPubrec a = none ↔
    ∀ pending, f.publishes[a]? = some pending → pending.phase = .awaitingAck := by
  unfold onPubrec
  cases hl : f.publishes[a]? with
  | none => simp
  | some pending =>
    cases hp : pending.phase with
    | awaitingAck => simp [hp]
    | awaitingReceipt => simp [hp]
    | awaitingCompletion => simp [hp]

theorem head?_awaits_of_onPubrec {f : Inflight} {a : UInt16} (hn : f.onPubrec a = none) :
    (f.awaits a).head? ≠ some .pubrec := by
  intro hh
  rcases of_head?_awaits hh with ⟨pending, hl, hp⟩ | ⟨-, he⟩ | ⟨-, he⟩
  · rw [(f.onPubrec_eq_none_iff a).mp hn pending hl] at hp
    cases hp
  · cases he
  · cases he

/-- A receipt that calls for a release again finds that it is no longer awaited. -/
theorem awaits_onPubrec {f g : Inflight} {a : UInt16} (hg : f.onPubrec a = some g)
    (id : UInt16) : g.awaits id = if id = a then advance (f.awaits a) .pubrec else f.awaits id := by
  unfold onPubrec at hg
  split at hg
  · next pending hl =>
    split at hg
    · cases hg
    · next hp =>
      cases hg
      rw [awaits_insert, awaits_of_publish hl, hp]
      rfl
    · next hp =>
      cases hg
      split_ifs with he
      · subst he
        rw [awaits_of_publish hl, hp]
        rfl
      · rfl
  · cases hg

theorem Orderly.onPubrec_eq_none_iff {f : Inflight} (h : f.Orderly) (a : UInt16) :
    f.onPubrec a = none ↔ ∀ packet : Publish, f.operation? a = some (.publish packet) →
      packet.qos ≠ .exactlyOnce := by
  rw [Inflight.onPubrec_eq_none_iff]
  by_cases ha : a ∈ f.publishes
  · obtain ⟨pending, hl⟩ := (f.mem_publishes_iff a).mp ha
    rw [hl, operation?_of_publish hl]
    simp only [Option.some.injEq, Abandoned.publish.injEq, forall_eq']
    rw [h.phase_iff a pending hl]
    have hq := h.qos_ne a pending hl
    cases hqos : pending.packet.qos with
    | atMostOnce => exact absurd hqos hq
    | atLeastOnce => simp
    | exactlyOnce => simp
  · rw [Std.ExtTreeMap.getElem?_eq_none ha, operation?_of_not_mem ha]
    split_ifs <;> simp

end Inflight

namespace Session

def ack? (s : Session) (input : Input) (id : UInt16) : Option PacketKind :=
  match (s.accepts? input).bind Packet.ack? with
  | some (kind, a) => if a = id then some kind else none
  | none => none

/-- What is left to wait for under an identifier once an operation has been heard. -/
def awaitsAfter (s : Session) (input : Input) (id : UInt16) : List PacketKind :=
  (s.ack? input id).toList.foldl advance (s.inflight.awaits id)

section Rules

variable {s : Session} {fault : Option Error} {input : Input} {y : Yield}

theorem ack?_received {packet : Packet} {kind : PacketKind} {a : UInt16}
    (hs : s.status = .connected) (hk : packet.ack? = some (kind, a)) (id : UInt16) :
    s.ack? (.report s.attempt (.received packet)) id = if a = id then some kind else none := by
  simp only [ack?, accepts?_received packet hs, Option.bind_some, hk]

theorem ack?_eq_some {id : UInt16} {kind : PacketKind} (h : s.ack? input id = some kind) :
    ∃ packet, s.accepts? input = some packet ∧ packet.ack? = some (kind, id) := by
  unfold ack? at h
  split at h
  · next kind' a hb =>
    split_ifs at h with he
    subst he
    cases h
    exact Option.bind_eq_some_iff.mp hb
  · cases h

theorem awaitsAfter_received {packet : Packet} {kind : PacketKind} {a : UInt16}
    (hs : s.status = .connected) (hk : packet.ack? = some (kind, a)) (id : UInt16) :
    s.awaitsAfter (.report s.attempt (.received packet)) id =
      if id = a then advance (s.inflight.awaits a) kind else s.inflight.awaits id := by
  rw [awaitsAfter, ack?_received hs hk]
  by_cases he : a = id
  · subst he
    rw [if_pos rfl, if_pos rfl]
    rfl
  · have he' : id ≠ a := fun hia => he hia.symm
    rw [if_neg he, if_neg he']
    rfl

theorem awaitsAfter_of_bind (h : (s.accepts? input).bind Packet.ack? = none) (id : UInt16) :
    s.awaitsAfter input id = s.inflight.awaits id := by
  simp only [awaitsAfter, ack?, h, Option.toList_none, List.foldl_nil]

theorem awaitsAfter_of_not_connected (hs : s.status ≠ .connected) (id : UInt16) :
    s.awaitsAfter input id = s.inflight.awaits id := by
  apply awaitsAfter_of_bind
  rw [accepts?_of_not_connected hs]
  rfl

theorem awaitsAfter_of_ack? (packet : Packet) (hk : packet.ack? = none) (id : UInt16) :
    s.awaitsAfter (.report s.attempt (.received packet)) id = s.inflight.awaits id := by
  by_cases hs : s.status = .connected
  · apply awaitsAfter_of_bind
    rw [accepts?_received packet hs, Option.bind_some, hk]
  · exact awaitsAfter_of_not_connected hs id

theorem Idle.awaits_eq {result : Except Error Output} (h : Idle s input result) (id : UInt16) :
    s.inflight.awaits id = s.awaitsAfter input id := by
  cases h with
  | staleReport attempt report ha _ =>
    exact (awaitsAfter_of_bind (by rw [accepts?_of_stale report ha]; rfl) id).symm
  | outOfPlace packet _ hst => exact (awaitsAfter_of_not_connected hst id).symm
  | connackLate connack _ => exact (awaitsAfter_of_ack? _ rfl id).symm
  | neverFromServer packet hp =>
    exact (awaitsAfter_of_ack? packet (Packet.ack?_of_isClients hp) id).symm
  | nothingPending packet hst hp ha =>
    obtain ⟨⟨a, event⟩, hc⟩ := Option.isSome_iff_exists.mp hp
    obtain ⟨kind, hk⟩ := Packet.ack?_of_completion hc
    rw [awaitsAfter_received hst hk]
    split_ifs with he
    · rw [he, advance_of_ne (Inflight.head?_awaits_of_onAck hp hk ha)]
    · rfl
  | nothingToRelease a hst hr =>
    rw [awaitsAfter_received hst rfl]
    split_ifs with he
    · rw [he, advance_of_ne (Inflight.head?_awaits_of_onPubrec hr)]
    · rfl
  | connectNotAllowed _ _ | failedLate _ _ | closedLate _ | rejected _ _ _ | notConnected _ _ _ _
  | nothingToDisconnect _ _ | notDue _ | nextService => rfl

/-- A write awaits nothing less; what a receipt leaves to wait for is settled by then. -/
theorem Writes.awaits_eq {u v : Session} {packet : Packet} {events : List Event}
    {output : Output} (h : Writes s input packet u v events output) {id : UInt16}
    (hg : output.granted? ≠ some id) :
    v.inflight.awaits id = s.awaitsAfter input id := by
  cases h with
  | connect transport hst =>
    rw [awaitsAfter_of_not_connected (by simp [hst])]
    unfold install
    by_cases hc : s.options.cleanSession
    · rw [if_pos hc]
      rfl
    · rw [if_neg hc]
  | puback message hst _ => exact (awaitsAfter_of_ack? _ rfl id).symm
  | pubrec message hst _ u hu =>
    subst hu
    rw [awaitsAfter_of_ack? _ rfl]
    unfold Inflight.hold
    split
    · rfl
    · rfl
  | pubrel a f hst hr =>
    rw [awaitsAfter_received hst rfl]
    exact Inflight.awaits_onPubrec hr id
  | pubcompOnly a hst _ => exact (awaitsAfter_of_ack? _ rfl id).symm
  | pubcomp a message f hst hr =>
    obtain ⟨-, rfl⟩ := Inflight.unhold_some hr
    exact (awaitsAfter_of_ack? _ rfl id).symm
  | publishOnce _ _ _ _ _ _ _ | ping _ | keepAlive _ _ => rfl
  | publish packet a ids _ _ ha _ =>
    have hne : id ≠ a := fun he => hg (by rw [he]; rfl)
    exact (Inflight.awaits_insert _ _ _ id).trans (if_neg hne)
  | subscribe packet a ids _ _ ha =>
    have hne : a ≠ id := fun he => hg (by rw [he]; rfl)
    exact Inflight.awaits_congr rfl (by simp [Inflight.trackSubscribe, hne]) .rfl
  | unsubscribe packet a ids _ _ ha =>
    have hne : a ≠ id := fun he => hg (by rw [he]; rfl)
    exact Inflight.awaits_congr rfl .rfl (by simp [Inflight.trackUnsubscribe, hne])

/-- As long as the connection goes on and an identifier is not granted, what is awaited under it
advances with each acknowledgement that comes in. -/
theorem Transition.awaits_eq (h : Transition s fault input y) (hs : Bookkeeping s) {id : UInt16}
    (hg : grantedBy y.result ≠ some id) (hst : y.session.status = .connected) :
    y.session.inflight.awaits id = s.awaitsAfter input id := by
  cases h with
  | idle hi => exact hi.awaits_eq id
  | wrote hw _ _ => exact hw.awaits_eq hg
  | accepted connack _ _ => rw [awaitsAfter_of_ack? (.connack connack) rfl]
  | delivered message _ _ => exact (awaitsAfter_of_ack? (.publish message) rfl id).symm
  | ponged _ => exact (awaitsAfter_of_ack? .pingresp rfl id).symm
  | completed packet a event f hst' hp ha =>
    obtain ⟨kind, hk⟩ := Packet.ack?_of_completion hp
    rw [awaitsAfter_received hst' hk]
    exact hs.orderly.awaits_onAck hp hk ha id
  | writeFailed _ _ | failed _ _ | closed _ | refused _ _ _ | disconnected _ | began _ _ _ _ =>
    cases hst
  | discarded _ _ _ | exhausted _ _ _ _ _ _ => rfl

end Rules

end Session

end Mqtt
