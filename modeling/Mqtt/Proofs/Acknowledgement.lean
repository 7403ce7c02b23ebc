import Mqtt.Proofs.Awaiting
import Mqtt.Proofs.ExactlyOnce
import Mqtt.Proofs.Settlement

/-!
# Acknowledgements complete operations

From its request on, an operation is complete as soon as its exchange is a sublist of the
acknowledgements that have come in under its identifier. `completed_by_exchange` says so for whole
runs, and that nothing else completes anything: an acknowledgement that is not awaited does nothing,
except that a repeated receipt is answered with another release.
-/

namespace Mqtt

/-- Whether an event reports that an operation is complete, and not that it was given up. -/
def Event.Completes (e : Event) (operation : Abandoned) : Prop :=
  e.Settles operation ∧ ∀ other, e ≠ .operationAbandoned other

theorem Event.settled?_of_settles {e : Event} {operation : Abandoned} (h : e.Settles operation) :
    e.settled? = some operation.packetId := by
  cases e with
  | publishComplete id =>
    cases operation with
    | publish packet => exact congrArg some h.symm
    | subscribe _ | unsubscribe _ => cases h
  | subscribeComplete packet =>
    cases operation with
    | subscribe _ => exact congrArg some h
    | publish _ | unsubscribe _ => cases h
  | unsubscribeComplete id =>
    cases operation with
    | unsubscribe _ => exact congrArg some h.symm
    | publish _ | subscribe _ => cases h
  | operationAbandoned other =>
    cases operation <;> cases h <;> rfl
  | connectionSuccess _ | connectionFailure _ | publishSent _ | publishReceived _ | pingResponse
  | connectionClosed => cases operation <;> cases h

namespace Session

section Rules

variable {s : Session} {fault : Option Error} {input : Input} {y : Yield}

theorem Transition.of_completion {packet : Packet} {a : UInt16} {event : Event}
    (h : Transition s fault (.report s.attempt (.received packet)) y)
    (hst : s.status = .connected) (hc : packet.completion = some (a, event)) :
    s.inflight.onAck packet = none ∧ y = ⟨.ok .done, s, [], []⟩ ∨
      ∃ f, s.inflight.onAck packet = some f ∧
        y = ⟨.ok .done, { s with inflight := f, ids := s.ids.release a }, [event], []⟩ := by
  cases h with
  | idle hi =>
    cases hi with
    | staleReport _ _ ha _ => exact absurd rfl ha
    | outOfPlace _ _ hne => exact absurd hst hne
    | nothingPending _ _ _ ha => exact .inl ⟨ha, rfl⟩
    | neverFromServer _ hp =>
      obtain ⟨kind, hk⟩ := Packet.ack?_of_completion hc
      rw [Packet.ack?_of_isClients hp] at hk
      cases hk
    | connackLate _ _ | nothingToRelease _ _ _ => cases hc
  | completed _ b e f _ hp ha =>
    rw [hc] at hp
    cases hp
    exact .inr ⟨f, ha, rfl⟩
  | wrote hw _ _ => cases hw <;> cases hc
  | writeFailed hw _ => cases hw <;> cases hc
  | accepted _ _ _ | refused _ _ _ | delivered _ _ _ | ponged _ => cases hc

theorem Transition.of_unaccepted {attempt : Nat} {packet : Packet} {kind : PacketKind}
    {id : UInt16} (h : Transition s fault (.report attempt (.received packet)) y)
    (hk : packet.ack? = some (kind, id))
    (ha : s.accepts? (.report attempt (.received packet)) = none) :
    y = ⟨.ok .done, s, [], []⟩ := by
  have hne : ∀ p : Packet, s.status = .connected →
      s.accepts? (.report s.attempt (.received p)) ≠ none := by
    intro p hst hn
    rw [accepts?_received p hst] at hn
    cases hn
  cases h with
  | idle hi => cases hi <;> rfl
  | wrote hw _ _ =>
    cases hw with
    | puback _ hst _ | pubrec _ hst _ _ _ | pubrel _ _ hst _ | pubcompOnly _ hst _
    | pubcomp _ _ _ hst _ => exact absurd ha (hne _ hst)
  | writeFailed hw _ =>
    cases hw with
    | puback _ hst _ | pubrec _ hst _ _ _ | pubrel _ _ hst _ | pubcompOnly _ hst _
    | pubcomp _ _ _ hst _ => exact absurd ha (hne _ hst)
  | accepted _ _ _ | refused _ _ _ => cases hk
  | delivered _ hst _ | completed _ _ _ _ hst _ _ | ponged hst => exact absurd ha (hne _ hst)

theorem Transition.of_receipt {a : UInt16}
    (h : Transition s fault (.report s.attempt (.received (.pubrec a))) y)
    (hst : s.status = .connected) :
    s.inflight.onPubrec a = none ∧ y = ⟨.ok .done, s, [], []⟩ ∨
      (s.inflight.onPubrec a).isSome ∧
        ((∃ transport, s.transport = some transport ∧ fault = none ∧
            y.io = [.wrote transport (.pubrel a)]) ∨
          (s.writeError fault).isSome ∧ y.io = s.lastWords (.pubrel a)) := by
  cases h with
  | idle hi =>
    cases hi with
    | staleReport _ _ ha _ => exact absurd rfl ha
    | outOfPlace _ _ hne => exact absurd hst hne
    | nothingToRelease _ _ hr => exact .inl ⟨hr, rfl⟩
    | neverFromServer _ hp | nothingPending _ _ hp _ => cases hp
  | @wrote _ _ _ _ _ _ transport hw ht hf =>
    cases hw with
    | pubrel _ f _ hr => exact .inr ⟨by rw [hr]; rfl, .inl ⟨transport, ht, hf, rfl⟩⟩
  | @writeFailed _ _ _ _ _ _ e hw he =>
    cases hw with
    | pubrel _ f _ hr =>
      have he' : (s.writeError fault).isSome := Option.isSome_of_eq_some he
      exact .inr ⟨by rw [hr]; rfl, .inr ⟨he', rfl⟩⟩
  | completed _ _ _ _ _ hp _ => cases hp

theorem not_completes_of_mem_abandoned {e : Event} (he : e ∈ s.abandoned)
    (operation : Abandoned) : ¬e.Completes operation := by
  intro hc
  obtain ⟨other, ho⟩ := s.mem_abandoned he
  exact hc.2 other ho

theorem not_completes_of_mem_farewell {reason : Error} {e : Event} (he : e ∈ s.farewell reason)
    (operation : Abandoned) : ¬e.Completes operation := by
  rcases List.mem_append.mp he with he | he
  · exact not_completes_of_mem_abandoned he operation
  · rintro ⟨hs, -⟩
    rw [List.mem_singleton.mp he] at hs
    split_ifs at hs
    · cases operation <;> cases hs
    · cases operation <;> cases hs

theorem Writes.not_completes {u v : Session} {packet : Packet} {events : List Event}
    {output : Output} (h : Writes s input packet u v events output) {e : Event} (he : e ∈ events)
    (operation : Abandoned) : ¬e.Completes operation := by
  rintro ⟨hs, -⟩
  cases h with
  | puback _ _ _ | pubcomp _ _ _ _ _ | publishOnce _ _ _ _ _ _ _ | publish _ _ _ _ _ _ _ =>
    rw [List.mem_singleton.mp he] at hs
    cases operation <;> cases hs
  | connect _ _ | pubrec _ _ _ _ _ | pubrel _ _ _ _ | pubcompOnly _ _ _ | subscribe _ _ _ _ _ _
  | unsubscribe _ _ _ _ _ _ | ping _ | keepAlive _ _ => cases he

theorem Transition.of_completes (h : Transition s fault input y) {e : Event}
    {operation : Abandoned} (he : e ∈ y.events) (hc : e.Completes operation) :
    ∃ packet, s.accepts? input = some packet ∧
      packet.completion = some (operation.packetId, e) ∧ y.events = [e] ∧ y.io = [] := by
  cases h with
  | completed packet a event f hst hp ha =>
    cases List.mem_singleton.mp he
    refine ⟨packet, accepts?_received packet hst, ?_, rfl, rfl⟩
    have hid : e.settled? = some a := by
      cases packet <;> cases hp <;> rfl
    rw [Event.settled?_of_settles hc.1] at hid
    rw [hp, Option.some.inj hid]
  | wrote hw _ _ => exact absurd hc (hw.not_completes he operation)
  | writeFailed _ _ => exact absurd hc (not_completes_of_mem_farewell he operation)
  | closed _ => exact absurd hc (not_completes_of_mem_farewell he operation)
  | disconnected _ =>
    rcases List.mem_append.mp he with he | he
    · exact absurd hc (not_completes_of_mem_abandoned he operation)
    · split_ifs at he
      · cases List.mem_singleton.mp he
        cases operation <;> cases hc.1
      · cases he
  | failed _ _ | accepted _ _ _ | refused _ _ _ | delivered _ _ _ | ponged _ =>
    cases List.mem_singleton.mp he
    cases operation <;> cases hc.1
  | idle _ | discarded _ _ _ | began _ _ _ _ | exhausted _ _ _ _ _ _ => cases he

theorem Packet.not_abandoned {packet : Packet} {a : UInt16} {event : Event}
    (h : packet.completion = some (a, event)) (other : Abandoned) :
    event ≠ .operationAbandoned other := by
  cases packet <;> cases h <;> exact Event.noConfusion

/-- A pending operation is completed by the last acknowledgement that it waits for. -/
theorem Transition.completes_iff (h : Transition s fault input y) (hs : Bookkeeping s)
    {id : UInt16} {operation : Abandoned} (ho : s.inflight.operation? id = some operation) :
    (∃ e ∈ y.events, e.Completes operation) ↔
      ∃ kind, s.ack? input id = some kind ∧ s.inflight.awaits id = [kind] := by
  have hid := hs.orderly.packetId_operation? ho
  constructor
  · rintro ⟨e, he, hc⟩
    obtain ⟨packet, ha, hp, -, -⟩ := h.of_completes he hc
    rw [hid] at hp
    obtain ⟨kind, hk⟩ := Packet.ack?_of_completion hp
    obtain ⟨rfl, hst⟩ := accepts?_eq_some ha
    refine ⟨kind, by rw [ack?_received hst hk, if_pos rfl], ?_⟩
    rcases h.of_completion hst hp with ⟨-, rfl⟩ | ⟨f, hf, -⟩
    · cases he
    · exact hs.orderly.awaits_of_onAck (by rw [hp]; rfl) hk hf
  · rintro ⟨kind, hk, hw⟩
    obtain ⟨packet, ha, hp⟩ := ack?_eq_some hk
    obtain ⟨rfl, hst⟩ := accepts?_eq_some ha
    rcases Packet.eq_pubrec_or_completion hp with ⟨-, rfl⟩ | ⟨event, hc⟩
    · exact absurd hw (Inflight.awaits_ne_pubrec _ id)
    · rcases h.of_completion hst hc with ⟨hn, -⟩ | ⟨f, hf, rfl⟩
      · refine absurd ?_ (Inflight.head?_awaits_of_onAck (by rw [hc]; rfl) hp hn)
        rw [hw]
        rfl
      · obtain ⟨-, -, -, ⟨operation', hop, hset⟩, -⟩ := hs.orderly.onAck hc hf
        rw [ho] at hop
        cases hop
        exact ⟨event, List.mem_singleton_self event, hset, Packet.not_abandoned hc⟩

/-- An acknowledgement that does not count does nothing at all: one on another connection than the
accepted one, one that completes nothing, or a receipt that nothing waits for. -/
theorem Transition.inert {attempt : Nat} {packet : Packet} {kind : PacketKind} {id : UInt16}
    (h : Transition s fault (.report attempt (.received packet)) y) (hs : Bookkeeping s)
    (hk : packet.ack? = some (kind, id))
    (hnc : ∀ operation, s.inflight.operation? id = some operation →
      ¬∃ e ∈ y.events, e.Completes operation)
    (hnr : s.accepts? (.report attempt (.received packet)) = some (.pubrec id) →
      ∀ message : Publish, s.inflight.operation? id = some (.publish message) →
        message.qos ≠ .exactlyOnce) :
    y = ⟨.ok .done, s, [], []⟩ := by
  cases ha : s.accepts? (.report attempt (.received packet)) with
  | none => exact h.of_unaccepted hk ha
  | some accepted =>
    obtain ⟨hin, hst⟩ := accepts?_eq_some ha
    cases hin
    rcases Packet.eq_pubrec_or_completion hk with ⟨rfl, rfl⟩ | ⟨event, hc⟩
    · rcases h.of_receipt hst with ⟨-, hy⟩ | ⟨hsome, -⟩
      · exact hy
      · rw [(hs.orderly.onPubrec_eq_none_iff id).mpr (hnr ha)] at hsome
        cases hsome
    · rcases h.of_completion hst hc with ⟨-, hy⟩ | ⟨f, hf, rfl⟩
      · exact hy
      · obtain ⟨-, -, -, ⟨operation, hop, hset⟩, -⟩ := hs.orderly.onAck hc hf
        exact absurd ⟨event, List.mem_singleton_self event, hset, Packet.not_abandoned hc⟩
          (hnc operation hop)

theorem Transition.of_pubrel (h : Transition s fault input y) {a : UInt16}
    (hio : .pubrel a ∈ y.io.filterMap Io.attempted?) :
    s.accepts? input = some (.pubrec a) ∧ (s.inflight.onPubrec a).isSome := by
  have hw : ∀ {packet : Packet} {u v : Session} {events : List Event} {output : Output},
      Writes s input packet u v events output → .pubrel a = packet →
      s.accepts? input = some (.pubrec a) ∧ (s.inflight.onPubrec a).isSome := by
    intro packet u v events output hw hp
    cases hw <;> cases hp
    case pubrel f hst hr => exact ⟨accepts?_received _ hst, by rw [hr]; rfl⟩
  cases h with
  | wrote h _ _ => exact hw h (List.mem_singleton.mp hio)
  | writeFailed h _ =>
    rw [attempted_lastWords] at hio
    obtain ⟨_, -, hp⟩ := List.mem_map.mp hio
    exact hw h hp.symm
  | closed _ | refused _ _ _ =>
    rw [attempted_closing] at hio
    cases hio
  | disconnected _ =>
    rw [List.filterMap_append, attempted_closing, attempted_goodbye, List.append_nil] at hio
    obtain ⟨_, -, hp⟩ := List.mem_map.mp hio
    cases hp
  | idle _ | discarded _ _ _ | began _ _ _ _ | failed _ _ | accepted _ _ _ | delivered _ _ _
  | completed _ _ _ _ _ _ _ | ponged _ | exhausted _ _ _ _ _ _ => cases hio

theorem Phase.awaits_initial (packet : Publish) (hq : packet.qos ≠ .atMostOnce) :
    (Phase.initial packet.qos).awaits = (Abandoned.publish packet).exchange := by
  cases h : packet.qos with
  | atMostOnce => exact absurd h hq
  | atLeastOnce => simp [Phase.initial, Phase.awaits, Abandoned.exchange, h]
  | exactlyOnce => simp [Phase.initial, Phase.awaits, Abandoned.exchange, h]

theorem Transition.awaits_opened (h : Transition s fault input y) (hs : Bookkeeping s)
    {id : UInt16} {operation : Abandoned} (hg : grantedBy y.result = some id)
    (ho : input.opens? id = some operation) :
    y.session.inflight.awaits id = operation.exchange ∧ y.session.status = .connected := by
  cases h with
  | wrote hw _ _ =>
    cases hw with
    | publishOnce packet a ids _ _ _ hq =>
      simp only [Input.opens?, hq, if_true] at ho
      cases ho
    | publish packet a ids _ hst _ hq =>
      cases hg
      simp only [Input.opens?, hq, if_false] at ho
      cases ho
      refine ⟨(Inflight.awaits_insert _ _ _ id).trans ?_, hst⟩
      rw [if_pos rfl]
      exact Phase.awaits_initial { packet with packetId := id } hq
    | subscribe packet a ids _ hst ha =>
      cases hg
      cases ho
      exact ⟨Inflight.awaits_trackSubscribe (hs.acquire ha).1, hst⟩
    | unsubscribe packet a ids _ hst ha =>
      cases hg
      cases ho
      exact ⟨Inflight.awaits_trackUnsubscribe (hs.acquire ha).1, hst⟩
    | connect _ _ | puback _ _ _ | pubrec _ _ _ _ _ | pubrel _ _ _ _ | pubcompOnly _ _ _
    | pubcomp _ _ _ _ _ | ping _ | keepAlive _ _ => cases hg
  | idle hi =>
    rw [hi.grantedBy_eq_none] at hg
    cases hg
  | writeFailed _ _ | discarded _ _ _ | began _ _ _ _ | failed _ _ | closed _ | accepted _ _ _
  | refused _ _ _ | delivered _ _ _ | completed _ _ _ _ _ _ _ | ponged _
  | exhausted _ _ _ _ _ _ | disconnected _ => cases hg

/-! ### What is pending has been written -/

/-- What is pending has been written to a transport, and that is still installed. -/
def Grounded (s : Session) : Prop :=
  ∀ id, (s.inflight.operation? id).isSome → s.transport.isSome

theorem grounded_of_empty {s : Session} {held : Std.ExtTreeMap UInt16 Publish compare}
    (h : s.inflight = { held := held }) : Grounded s := by
  intro id hid
  rw [h, Inflight.operation?_empty] at hid
  cases hid

theorem Transition.grounded (h : Transition s fault input y) (hs : Bookkeeping s)
    (hg : Grounded s) : Grounded y.session := by
  cases h with
  | @wrote _ _ _ v _ _ transport hw ht _ =>
    intro id _
    change v.transport.isSome
    rw [hw.transport_eq, ht]
    rfl
  | refused _ hst _ =>
    intro id hid
    have hbound := hs.offline (by simp [hst]) id
    rw [hs.isBound_eq] at hbound
    change (s.inflight.operation? id).isSome at hid
    rw [hbound] at hid
    cases hid
  | completed packet a event f hst hp ha =>
    intro id hid
    obtain ⟨-, -, -, -, ho⟩ := hs.orderly.onAck hp ha
    change (f.operation? id).isSome at hid
    rw [ho] at hid
    split_ifs at hid
    · cases hid
    · exact hg id hid
  | writeFailed _ _ | closed _ | disconnected _ => exact grounded_of_empty rfl
  | idle _ | discarded _ _ _ | began _ _ _ _ | failed _ _ | accepted _ _ _ | delivered _ _ _
  | ponged _ | exhausted _ _ _ _ _ _ => exact hg

end Rules

/-! ### Whole runs -/

theorem grounded_run (o : ConnectOptions) (as : List Action) : Grounded ((new o).run as) := by
  have h : Bookkeeping ((new o).run as) ∧ Grounded ((new o).run as) := by
    refine run_induction (P := fun s => Bookkeeping s ∧ Grounded s)
      ⟨bookkeeping_new o, grounded_of_empty rfl⟩ ?_ as
    intro m hm
    exact ⟨m.bookkeeping hm.1, m.transition.grounded (hm.1.atTime _) hm.2⟩
  exact h.2

namespace Move

variable (m : Move)

def ack? (id : UInt16) : Option PacketKind := m.before.ack? m.action.input id

def attempted : List Packet := m.io.filterMap Io.attempted?

end Move

/-- The acknowledgements that come in under an identifier on an accepted connection, in order. -/
def acks (id : UInt16) (ms : List Move) : List PacketKind := ms.filterMap (·.ack? id)

def Lasts (ms : List Move) : Prop := ∀ m ∈ ms, m.after.status = .connected

def Answered (operation : Abandoned) (ms : List Move) : Prop :=
  operation.exchange.Sublist (acks operation.packetId ms)

/-- The moves of a run since the request that opened an operation, during which its identifier has
not been granted again. -/
def OpenedSince (o : ConnectOptions) (as : List Action) (operation : Abandoned)
    (since : List Move) : Prop :=
  ∃ before a after, as = before ++ a :: after ∧
    (Move.mk ((new o).run before) a).opened? = some operation ∧
    since = (Move.mk ((new o).run before) a).after.moves after ∧
    Ungranted operation.packetId since

theorem acks_cons (id : UInt16) (m : Move) (ms : List Move) :
    acks id (m :: ms) = (m.ack? id).toList ++ acks id ms := by
  cases h : m.ack? id <;> simp [acks, h]

theorem acks_concat (id : UInt16) (ms : List Move) (m : Move) :
    acks id (ms ++ [m]) = acks id ms ++ (m.ack? id).toList := by
  cases h : m.ack? id <;> simp [acks, h]

theorem Ungranted.tail {id : UInt16} {m : Move} {ms : List Move} (h : Ungranted id (m :: ms)) :
    Ungranted id ms := fun x hx => h x (List.mem_cons_of_mem _ hx)

/-- While the connection lasts, each acknowledgement that is awaited advances what is awaited. -/
theorem awaits_run {s : Session} (hs : Bookkeeping s) {id : UInt16} (as : List Action)
    (hn : Ungranted id (s.moves as)) (hl : Lasts (s.moves as)) :
    (s.run as).inflight.awaits id =
      (acks id (s.moves as)).foldl advance (s.inflight.awaits id) := by
  induction as generalizing s with
  | nil => rfl
  | cons a as ih =>
    rw [moves_cons] at hn hl ⊢
    have hm := (Move.mk s a).transition.awaits_eq (hs.atTime _) (hn _ List.mem_cons_self)
      (hl _ List.mem_cons_self)
    rw [run_cons, acks_cons, List.foldl_append, ih (Move.bookkeeping ⟨s, a⟩ hs) hn.tail
      fun m hm => hl m (List.mem_cons_of_mem _ hm)]
    exact congrArg (fun rest => List.foldl advance rest _) hm

theorem lasts_of_pending {s : Session} (hs : Bookkeeping s) {operation : Abandoned}
    (as : List Action) (hn : Ungranted operation.packetId (s.moves as))
    (ho : (s.run as).inflight.operation? operation.packetId = some operation) :
    Lasts (s.moves as) := by
  induction as generalizing s with
  | nil => exact fun m hm => absurd hm List.not_mem_nil
  | cons a as ih =>
    rw [moves_cons] at hn ⊢
    have hafter := Move.bookkeeping ⟨s, a⟩ hs
    have hacc := account_moves hafter as hn.tail
    rw [run_cons] at ho
    rw [ho] at hacc
    have hop := (hacc.eq_some_before (by simp)).1
    intro m hm
    rcases List.mem_cons.mp hm with rfl | hm
    · by_contra hne
      have hbound := hafter.offline hne operation.packetId
      rw [hafter.isBound_eq, hop] at hbound
      cases hbound
    · exact ih hafter hn.tail ho m hm

section Opened

variable {s : Session} {operation : Abandoned} (hs : Bookkeeping s)
  (ho : s.inflight.operation? operation.packetId = some operation)
  (hw : s.inflight.awaits operation.packetId = operation.exchange)
include hs hw

theorem answered_iff (as : List Action) (hn : Ungranted operation.packetId (s.moves as))
    (hl : Lasts (s.moves as)) : Answered operation (s.moves as) ↔
      (s.run as).inflight.operation? operation.packetId = none := by
  rw [Answered, ← foldl_advance_eq_nil_iff, ← hw, ← awaits_run hs as hn hl,
    Inflight.awaits_eq_nil_iff]

include ho

theorem pending_iff (as : List Action) (hn : Ungranted operation.packetId (s.moves as)) :
    (s.run as).inflight.operation? operation.packetId = some operation ↔
      Lasts (s.moves as) ∧ ¬Answered operation (s.moves as) := by
  constructor
  · intro hop
    have hl := lasts_of_pending hs as hn hop
    refine ⟨hl, ?_⟩
    rw [answered_iff hs hw as hn hl, hop]
    simp
  · rintro ⟨hl, hna⟩
    rw [answered_iff hs hw as hn hl] at hna
    have hacc := account_moves hs as hn
    rw [ho] at hacc
    rcases hacc.stays_or_settled with ⟨-, hop⟩ | ⟨-, -, -, hop⟩
    · exact hop
    · exact absurd hop hna

theorem completes_iff (as : List Action) (a : Action)
    (hn : Ungranted operation.packetId (s.moves as)) :
    (∃ e ∈ (Move.mk (s.run as) a).events, e.Completes operation) ↔
      Lasts (s.moves as) ∧ ¬Answered operation (s.moves as) ∧
        Answered operation (s.moves as ++ [⟨s.run as, a⟩]) := by
  have hlast : Bookkeeping (s.run as) := run_induction hs (fun m hm => m.bookkeeping hm) as
  have hpending := pending_iff hs ho hw as hn
  have hmove : ∀ hop : (s.run as).inflight.operation? operation.packetId = some operation,
      (∃ e ∈ (Move.mk (s.run as) a).events, e.Completes operation) ↔
        ∃ kind, (Move.mk (s.run as) a).ack? operation.packetId = some kind ∧
          (s.run as).inflight.awaits operation.packetId = [kind] := fun hop =>
    (Move.mk (s.run as) a).transition.completes_iff (hlast.atTime _) hop
  constructor
  · rintro ⟨e, he, hc⟩
    have hop : (s.run as).inflight.operation? operation.packetId = some operation := by
      obtain ⟨-, other, hother, -⟩ := Move.settles hlast he (Event.settled?_of_settles hc.1)
      have hacc := account_moves hs as hn
      rw [ho] at hacc
      rcases hacc.stays_or_settled with ⟨-, hop⟩ | ⟨-, -, -, hop⟩
      · exact hop
      · exact absurd (hop.symm.trans hother) (by simp)
    obtain ⟨kind, hk, hrest⟩ := (hmove hop).mp ⟨e, he, hc⟩
    obtain ⟨hl, hna⟩ := hpending.mp hop
    refine ⟨hl, hna, ?_⟩
    rw [Answered, ← foldl_advance_eq_nil_iff, acks_concat, hk, List.foldl_append, ← hw,
      ← awaits_run hs as hn hl, hrest]
    exact advance_cons_self kind []
  · rintro ⟨hl, hna, hans⟩
    have hop := hpending.mpr ⟨hl, hna⟩
    rw [hmove hop]
    rw [Answered, ← foldl_advance_eq_nil_iff, acks_concat, List.foldl_append, ← hw,
      ← awaits_run hs as hn hl] at hans
    have hne : (s.run as).inflight.awaits operation.packetId ≠ [] := by
      rw [Ne, Inflight.awaits_eq_nil_iff, hop]
      simp
    cases hk : (Move.mk (s.run as) a).ack? operation.packetId with
    | none =>
      rw [hk] at hans
      exact absurd hans hne
    | some kind =>
      rw [hk] at hans
      exact ⟨kind, rfl, eq_singleton_of_advance_eq_nil hans hne⟩

end Opened

theorem OpenedSince.pending {o : ConnectOptions} {as : List Action} {operation : Abandoned}
    {since : List Move} (h : OpenedSince o as operation since) :
    ∃ s after, Bookkeeping s ∧ s.inflight.operation? operation.packetId = some operation ∧
      s.inflight.awaits operation.packetId = operation.exchange ∧
      (new o).run as = s.run after ∧ since = s.moves after ∧
      Ungranted operation.packetId (s.moves after) := by
  obtain ⟨before, b, after, rfl, hop, rfl, hn⟩ := h
  have hm : Bookkeeping (Move.mk ((new o).run before) b).before := bookkeeping_run o before
  have hg := Move.granted?_of_opened? hop
  refine ⟨(Move.mk ((new o).run before) b).after, after, Move.bookkeeping _ hm,
    (Move.operation?_after hm hg).trans hop, ?_, by rw [run_append, run_cons], rfl, hn⟩
  obtain ⟨id, hgrant, hopens⟩ := Option.bind_eq_some_iff.mp hop
  rw [hgrant] at hg
  cases hg
  exact ((Move.transition _).awaits_opened (hm.atTime _) hgrant hopens).1

theorem openedSince_of_pending (o : ConnectOptions) (as : List Action) (operation : Abandoned)
    (ho : ((new o).run as).inflight.operation? operation.packetId = some operation) :
    ∃ since, OpenedSince o as operation since := by
  obtain ⟨before, b, after, has, hop, hn, -⟩ := standsOpen_of_pending o as ho
  exact ⟨_, before, b, after, has, hop, rfl, hn⟩

theorem Move.of_completes {m : Move} (hm : Bookkeeping m.before) {operation : Abandoned} {e : Event}
    (he : e ∈ m.events) (hc : e.Completes operation) :
    ∃ packet, m.accepted? = some packet ∧
      packet.completion = some (operation.packetId, e) ∧ m.events = [e] ∧ m.io = [] ∧
      operation ∉ m.after.inflight.pending := by
  obtain ⟨packet, hacc, hp, hevents, hio⟩ := m.transition.of_completes he hc
  refine ⟨packet, hacc, hp, hevents, hio, ?_⟩
  intro hin
  obtain ⟨hset, other, hother, -⟩ := Move.settles hm he (Event.settled?_of_settles hc.1)
  have haccount := m.account hm operation.packetId
  rw [hother, hset] at haccount
  have hsome := ((m.bookkeeping hm).orderly.mem_pending_iff operation).mp hin
  rcases haccount.stays_or_settled with ⟨hnil, -⟩ | ⟨-, -, -, hnone⟩
  · cases hnil
  · exact absurd (hnone.symm.trans hsome) (by simp)

section Run

variable {o : ConnectOptions} {as : List Action} {a : Action} {operation : Abandoned}
  {since : List Move}

theorem mem_pending_run : operation ∈ ((new o).run as).inflight.pending ↔
    ((new o).run as).inflight.operation? operation.packetId = some operation :=
  (bookkeeping_run o as).orderly.mem_pending_iff operation

theorem OpenedSince.mem_pending_iff (h : OpenedSince o as operation since) :
    operation ∈ ((new o).run as).inflight.pending ↔ Lasts since ∧ ¬Answered operation since := by
  obtain ⟨s, after, hs, ho, hw, hrun, rfl, hn⟩ := h.pending
  have hp := pending_iff hs ho hw after hn
  rw [← hrun] at hp
  exact mem_pending_run.trans hp

theorem OpenedSince.completes_iff (h : OpenedSince o as operation since) (a : Action) :
    (∃ e ∈ (Move.mk ((new o).run as) a).events, e.Completes operation) ↔
      Lasts since ∧ ¬Answered operation since ∧
        Answered operation (since ++ [⟨(new o).run as, a⟩]) := by
  obtain ⟨s, after, hs, ho, hw, hrun, rfl, hn⟩ := h.pending
  have hc := Session.completes_iff hs ho hw after a hn
  rw [← hrun] at hc
  exact hc

theorem attempted_of_receipt {message : Publish}
    (hacc : (Move.mk ((new o).run as) a).accepted? = some (.pubrec message.packetId))
    (hin : .publish message ∈ ((new o).run as).inflight.pending)
    (hq : message.qos = .exactlyOnce) :
    (Move.mk ((new o).run as) a).attempted = [.pubrel message.packetId] := by
  have hop := mem_pending_run.mp hin
  obtain ⟨hinput, hst⟩ := accepts?_eq_some hacc
  have hground : ((new o).run as).transport.isSome :=
    grounded_run o as message.packetId (Option.isSome_of_eq_some hop)
  obtain ⟨transport, ht⟩ := Option.isSome_iff_exists.mp hground
  rcases ((Move.mk ((new o).run as) a).transition_of hinput).of_receipt hst with
    ⟨hnone, -⟩ | ⟨-, ⟨_, -, -, hio⟩ | ⟨-, hio⟩⟩
  · exact absurd hq (((bookkeeping_run o as).orderly.onPubrec_eq_none_iff _).mp hnone message hop)
  · change (Move.mk ((new o).run as) a).io = _ at hio
    rw [Move.attempted, hio]
    rfl
  · change (Move.mk ((new o).run as) a).io = ((new o).run as).lastWords _ at hio
    rw [Move.attempted, hio, attempted_lastWords, ht]
    rfl

theorem receipt_of_attempted {id : UInt16}
    (hin : .pubrel id ∈ (Move.mk ((new o).run as) a).attempted) :
    (Move.mk ((new o).run as) a).accepted? = some (.pubrec id) ∧
      ∃ message, .publish message ∈ ((new o).run as).inflight.pending ∧ message.packetId = id ∧
        message.qos = .exactlyOnce := by
  have hm := bookkeeping_run o as
  obtain ⟨hacc, hsome⟩ := (Move.mk ((new o).run as) a).transition.of_pubrel hin
  refine ⟨hacc, ?_⟩
  by_contra hne
  have hnone : ((new o).run as).inflight.onPubrec id = none := by
    rw [hm.orderly.onPubrec_eq_none_iff]
    intro message hop hq
    have hid := hm.orderly.packetId_operation? hop
    exact hne ⟨message, mem_pending_run.mpr (by rw [hid, hop]), hid, hq⟩
  change (((new o).run as).inflight.onPubrec id).isSome at hsome
  rw [hnone] at hsome
  cases hsome

theorem inert_of_unawaited {attempt : Nat} {packet : Packet} {kind : PacketKind} {id : UInt16}
    (hin : a.input = .report attempt (.received packet)) (hk : packet.ack? = some (kind, id))
    (hnc : ∀ operation since, OpenedSince o as operation since → operation.packetId = id →
      ¬(Lasts since ∧ ¬Answered operation since ∧
        Answered operation (since ++ [⟨(new o).run as, a⟩])))
    (hnr : ∀ message, (Move.mk ((new o).run as) a).accepted? = some (.pubrec id) →
      .publish message ∈ ((new o).run as).inflight.pending → message.packetId = id →
      message.qos ≠ .exactlyOnce) :
    let m : Move := ⟨(new o).run as, a⟩
    m.result = .ok .done ∧ m.after = m.before.atTime a.now ∧ m.events = [] ∧ m.io = [] := by
  intro m
  have hm : Bookkeeping m.before := bookkeeping_run o as
  have hy := (m.transition_of hin).inert (hm.atTime _) hk ?_ ?_
  · exact ⟨congrArg Yield.result hy, congrArg Yield.session hy, congrArg Yield.events hy,
      congrArg Yield.io hy⟩
  · intro operation hop hc
    have hid := hm.orderly.packetId_operation? hop
    obtain ⟨since, hopen⟩ := openedSince_of_pending o as operation (by rw [hid]; exact hop)
    exact hnc operation since hopen hid ((hopen.completes_iff a).mp hc)
  · intro hacc message hop
    have hid := hm.orderly.packetId_operation? hop
    have hacc' : m.accepted? = some (.pubrec id) := by
      rw [Move.accepted?, hin]
      exact hacc
    exact hnr message hacc' (mem_pending_run.mpr (by rw [hid]; exact hop)) hid

end Run

/-- In every run, an operation stays pending since its request as long as its connection lasts and
the acknowledgements under its identifier do not contain its exchange; the one with which they do
completes it, and nothing else does. A receipt for a publish of the highest level is answered by one
release, and a release is written in no other case. Every other acknowledgement, on whatever
connection, leaves the session as it was, writes nothing and tells nothing. -/
theorem completed_by_exchange (o : ConnectOptions) (as : List Action) (a : Action) :
    let m : Move := ⟨(new o).run as, a⟩
    (∀ operation since, OpenedSince o as operation since →
      (operation ∈ m.before.inflight.pending ↔ Lasts since ∧ ¬Answered operation since) ∧
      ((∃ e ∈ m.events, e.Completes operation) ↔
        Lasts since ∧ ¬Answered operation since ∧ Answered operation (since ++ [m])) ∧
      ∀ e ∈ m.events, e.Completes operation →
        ∃ packet, m.accepted? = some packet ∧
          packet.completion = some (operation.packetId, e) ∧ m.events = [e] ∧ m.io = [] ∧
          operation ∉ m.after.inflight.pending) ∧
    (∀ id message, m.accepted? = some (.pubrec id) →
      .publish message ∈ m.before.inflight.pending → message.packetId = id →
      message.qos = .exactlyOnce → m.attempted = [.pubrel id]) ∧
    (∀ id, .pubrel id ∈ m.attempted → m.accepted? = some (.pubrec id) ∧
      ∃ message, .publish message ∈ m.before.inflight.pending ∧ message.packetId = id ∧
        message.qos = .exactlyOnce) ∧
    (∀ attempt packet kind id, a.input = .report attempt (.received packet) →
      packet.ack? = some (kind, id) →
      (∀ operation since, OpenedSince o as operation since → operation.packetId = id →
        ¬(Lasts since ∧ ¬Answered operation since ∧ Answered operation (since ++ [m]))) →
      (∀ message, m.accepted? = some (.pubrec id) →
        .publish message ∈ m.before.inflight.pending → message.packetId = id →
        message.qos ≠ .exactlyOnce) →
      m.result = .ok .done ∧ m.after = m.before.atTime a.now ∧ m.events = [] ∧ m.io = []) := by
  intro m
  refine ⟨?_, ?_, fun id hin => receipt_of_attempted hin, ?_⟩
  · intro operation since hopen
    exact ⟨hopen.mem_pending_iff, hopen.completes_iff a,
      fun e he hc => m.of_completes (bookkeeping_run o as) he hc⟩
  · rintro id message hacc hin rfl hq
    exact attempted_of_receipt hacc hin hq
  · intro attempt packet kind id hin hk hnc hnr
    exact inert_of_unawaited hin hk hnc hnr

example :
    (((new {}).moves ([.startConnect "", .report 1 (.opened 0),
      .report 1 (.received (.connack ⟨false, .accepted⟩)),
      .request (.publish ⟨0, "a", .exactlyOnce, false, false, .empty⟩),
      .report 1 (.received (.pubcomp 1)), .report 1 (.received (.pubrec 1)),
      .report 1 (.received (.pubrec 1)), .report 1 (.received (.pubcomp 1))].map
        fun input => ⟨input, 0, none⟩)).drop 4).map (fun m => (m.ack? 1, m.attempted, m.events)) =
    [(some .pubcomp, [], []), (some .pubrec, [.pubrel 1], []), (some .pubrec, [.pubrel 1], []),
      (some .pubcomp, [], [.publishComplete 1])] := by
  cbv

end Session

end Mqtt
