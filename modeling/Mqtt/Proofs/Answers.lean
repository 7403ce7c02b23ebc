import Mqtt.Proofs.Acknowledgement
import Mqtt.Proofs.Wire
import Mqtt.Simulation.Bench

/-!
# What a willing broker answers

A broker that answers everything leaves at most one acknowledgement under way for each operation:
the next one that the operation waits for. Here are the two kinds of steps on an accepted connection
that keep this up: operations of the application, and acknowledgements that are awaited.
-/

namespace Mqtt

namespace Packet

def foretells? : Packet → Option Event
  | puback id | pubrec id | pubcomp id => some (.publishComplete id)
  | suback packet => some (.subscribeComplete packet)
  | unsuback id => some (.unsubscribeComplete id)
  | _ => none

theorem kind_of_ack? {p : Packet} {kind : PacketKind} {a : UInt16} (h : p.ack? = some (kind, a)) :
    p.kind = kind := by
  cases p <;> cases h <;> rfl

theorem foretells?_of_completion {p : Packet} {a : UInt16} {event : Event}
    (h : p.completion = some (a, event)) : p.foretells? = some event := by
  cases p <;> cases h <;> rfl

theorem exists_foretells? {p : Packet} {kind : PacketKind} {a : UInt16}
    (h : p.ack? = some (kind, a)) : ∃ event, p.foretells? = some event := by
  cases p <;> cases h <;> exact ⟨_, rfl⟩

end Packet

theorem Inflight.awaits_of_head?_pubrec {f : Inflight} {a : UInt16}
    (h : (f.awaits a).head? = some .pubrec) : f.awaits a = [.pubrec, .pubcomp] := by
  rcases Inflight.of_head?_awaits h with ⟨pending, hl, hp⟩ | ⟨-, he⟩ | ⟨-, he⟩
  · rw [Inflight.awaits_of_publish hl]
    cases hphase : pending.phase with
    | awaitingReceipt => rfl
    | awaitingAck | awaitingCompletion =>
      rw [hphase] at hp
      cases hp
  · cases he
  · cases he

/-- The acknowledgements among some packets that stand under an identifier. -/
def acksUnder (id : UInt16) (packets : List Packet) : List Packet :=
  packets.filter fun p => p.ack?.map Prod.snd = some id

theorem ack?_of_mem_acksUnder {id : UInt16} {packets : List Packet} {p : Packet}
    (h : p ∈ acksUnder id packets) : ∃ kind, p.ack? = some (kind, id) := by
  obtain ⟨-, hp⟩ := List.mem_filter.mp h
  obtain ⟨⟨kind, a⟩, hk, rfl⟩ := Option.map_eq_some_iff.mp (of_decide_eq_true hp)
  exact ⟨kind, hk⟩

theorem acksUnder_append (id : UInt16) (ps qs : List Packet) :
    acksUnder id (ps ++ qs) = acksUnder id ps ++ acksUnder id qs := List.filter_append ..

theorem acksUnder_cons_self {p : Packet} {kind : PacketKind} {a : UInt16}
    (h : p.ack? = some (kind, a)) (ps : List Packet) :
    acksUnder a (p :: ps) = p :: acksUnder a ps := by
  rw [acksUnder, List.filter_cons_of_pos (by simp [h])]
  rfl

theorem acksUnder_cons_of_ne {p : Packet} {kind : PacketKind} {a id : UInt16}
    (h : p.ack? = some (kind, a)) (hne : id ≠ a) (ps : List Packet) :
    acksUnder id (p :: ps) = acksUnder id ps := by
  rw [acksUnder, List.filter_cons_of_neg (by simp [h, hne.symm])]
  rfl

theorem acksUnder_cons_of_none {p : Packet} (h : p.ack? = none) (id : UInt16) (ps : List Packet) :
    acksUnder id (p :: ps) = acksUnder id ps := by
  rw [acksUnder, List.filter_cons_of_neg (by simp [h])]
  rfl

def Broker.replies (packets : List Packet) : List Packet :=
  packets.flatMap fun p => (reply p).toList

@[simp] theorem Broker.replies_nil : Broker.replies [] = [] := rfl

theorem Broker.replies_singleton (p : Packet) : Broker.replies [p] = (Broker.reply p).toList :=
  List.append_nil _

namespace Session

/-- The event that an operation will be completed with once it has been granted an identifier. -/
def Input.promises? (input : Input) (id : UInt16) : Option Event :=
  match input with
  | .request (.publish packet) =>
    if packet.qos = .atMostOnce then none else some (.publishComplete id)
  | .request (.subscribe packet) =>
    some (.subscribeComplete ⟨id, packet.subscriptions.map fun x => .granted x.qos⟩)
  | .request (.unsubscribe _) => some (.unsubscribeComplete id)
  | _ => none

/-- An operation on an accepted connection writes to its transport at most, and leaves it as it
is. -/
structure Calm (t : TransportId) (sent : List Packet) (y : Yield) : Prop where
  io : y.io = sent.map (.wrote t)
  status : y.session.status = .connected
  transport : y.session.transport = some t

section Rules

variable {s : Session} {input : Input} {y : Yield} {t : TransportId}

/-- What the application's packets are to a willing broker: a ping, a publish that needs no answer,
or the opening of an operation, whose first acknowledgement is the answer. The session is the one
that results, the identifier the one that is granted. -/
inductive Poses (s : Session) (input : Input) (packet : Packet) (v : Session) :
    Option UInt16 → Prop
  | ping (hr : Broker.reply packet = some .pingresp) : Poses s input packet v none
  | once {id : UInt16} (hr : Broker.reply packet = none) (hs : s.inflight.awaits id = [])
      (hv : v.inflight.awaits id = []) (hp : input.promises? id = none) :
      Poses s input packet v (some id)
  | opening {id : UInt16} {p : Packet} {kind : PacketKind} (hr : Broker.reply packet = some p)
      (hk : p.ack? = some (kind, id)) (hs : s.inflight.awaits id = [])
      (hv : (v.inflight.awaits id).head? = some kind) (hp : p.foretells? = input.promises? id) :
      Poses s input packet v (some id)

theorem Writes.poses {u v : Session} {packet : Packet} {events : List Event} {output : Output}
    (h : Writes s input packet u v events output) (hs : Bookkeeping s)
    (hi : ∀ k report, input ≠ .report k report) : Poses s input packet v output.granted? := by
  have hfree : ∀ {a : UInt16} {ids : PacketIds}, s.ids.acquire = (some a, ids) →
      s.inflight.awaits a = [] := fun ha => (Inflight.awaits_eq_nil_iff _ _).mpr (hs.acquire ha).1
  cases h with
  | connect _ _ | puback _ _ _ | pubrec _ _ _ _ _ | pubrel _ _ _ _ | pubcompOnly _ _ _
  | pubcomp _ _ _ _ _ => exact absurd rfl (hi _ _)
  | ping _ | keepAlive _ _ => exact .ping rfl
  | publishOnce packet a ids _ _ ha hq =>
    have hp : (Input.request (.publish packet)).promises? a = none := if_pos hq
    exact .once (by simp only [Broker.reply, hq]) (hfree ha) (hfree ha) hp
  | publish packet a ids _ _ ha hq =>
    have hp : (Input.request (.publish packet)).promises? a = some (.publishComplete a) :=
      if_neg hq
    have hv := (Inflight.awaits_insert s.inflight a
      ⟨{ packet with packetId := a }, .initial packet.qos⟩ a).trans (if_pos rfl)
    cases hqos : packet.qos with
    | atMostOnce => exact absurd hqos hq
    | atLeastOnce =>
      refine .opening (p := .puback a) rfl rfl (hfree ha) ?_ hp.symm
      rw [hqos] at hv
      exact congrArg List.head? hv
    | exactlyOnce =>
      refine .opening (p := .pubrec a) rfl rfl (hfree ha) ?_ hp.symm
      rw [hqos] at hv
      exact congrArg List.head? hv
  | subscribe packet a ids _ _ ha =>
    have hv := Inflight.awaits_trackSubscribe (hs.acquire ha).1
    exact .opening rfl rfl (hfree ha) (congrArg List.head? hv) rfl
  | unsubscribe packet a ids _ _ ha =>
    have hv := Inflight.awaits_trackUnsubscribe (hs.acquire ha).1
    exact .opening rfl rfl (hfree ha) (congrArg List.head? hv) rfl

theorem Writes.settling_eq_nil {u v : Session} {packet : Packet} {events : List Event}
    {output : Output} (h : Writes s input packet u v events output) (id : UInt16) :
    settling id events = [] := by
  cases h <;> rfl

end Rules

/-! ### What is under way -/

/-- The completions that are under way for an identifier. -/
def owed (id : UInt16) (packets : List Packet) : List Event :=
  (acksUnder id packets).filterMap Packet.foretells?

theorem owed_cons_self {p : Packet} {kind : PacketKind} {a : UInt16}
    (h : p.ack? = some (kind, a)) (ps : List Packet) :
    owed a (p :: ps) = p.foretells?.toList ++ owed a ps := by
  rw [owed, acksUnder_cons_self h]
  cases hp : p.foretells? <;> simp [owed, hp]

theorem owed_cons_of_ne {p : Packet} {kind : PacketKind} {a id : UInt16}
    (h : p.ack? = some (kind, a)) (hne : id ≠ a) (ps : List Packet) :
    owed id (p :: ps) = owed id ps := by
  rw [owed, acksUnder_cons_of_ne h hne]
  rfl

theorem owed_eq_nil {id : UInt16} {ps : List Packet} (h : acksUnder id ps = []) :
    owed id ps = [] := by
  rw [owed, h]
  rfl

def load (packets : List Packet) : Nat := packets.foldr (fun p n => Bench.workload p + n) 0

theorem load_append (ps qs : List Packet) : load (ps ++ qs) = load ps + load qs := by
  induction ps with
  | nil => simp [load]
  | cons p ps ih =>
    change Bench.workload p + load (ps ++ qs) = Bench.workload p + load ps + load qs
    omega

/-- The completion that an operation leads to under an identifier, with the result that it had. -/
def promisedBy (input : Input) (result : Except Error Output) (id : UInt16) : Option Event :=
  if grantedBy result = some id then input.promises? id else none

theorem promisedBy_report (k : Nat) (report : Report) (result : Except Error Output)
    (id : UInt16) : promisedBy (.report k report) result id = none := by
  simp [promisedBy, Input.promises?]

theorem owed_append (id : UInt16) (ps qs : List Packet) :
    owed id (ps ++ qs) = owed id ps ++ owed id qs := by
  rw [owed, acksUnder_append, List.filterMap_append]
  rfl

/-- Session and broker are in step: nothing is under way but answers to pings and, for each
operation, the one acknowledgement that it waits for next. -/
structure InStep (s : Session) (packets : List Packet) : Prop where
  acks : ∀ p ∈ packets, p = .pingresp ∨ p.ack?.isSome
  kinds : ∀ id, (acksUnder id packets).map Packet.kind = (s.inflight.awaits id).head?.toList

/-- Where nothing is under way for one identifier, the next acknowledgement of its operation may
join the others. -/
theorem InStep.extend {s : Session} {packets : List Packet} {a : UInt16}
    (hacks : ∀ p ∈ packets, p = .pingresp ∨ p.ack?.isSome) (hnone : acksUnder a packets = [])
    (hkinds : ∀ id, id ≠ a →
      (acksUnder id packets).map Packet.kind = (s.inflight.awaits id).head?.toList)
    {next : Option Packet} (hnext : ∀ p, next = some p → ∃ kind, p.ack? = some (kind, a))
    (ha : (s.inflight.awaits a).head? = next.map Packet.kind) :
    InStep s (packets ++ next.toList) := by
  cases next with
  | none =>
    rw [Option.toList_none, List.append_nil]
    refine ⟨hacks, fun id => ?_⟩
    by_cases he : id = a
    · subst he
      rw [hnone, ha]
      rfl
    · exact hkinds id he
  | some p =>
    obtain ⟨kind, hk⟩ := hnext p rfl
    refine ⟨?_, fun id => ?_⟩
    · intro q hq
      rcases List.mem_append.mp hq with hq | hq
      · exact hacks q hq
      · rw [List.mem_singleton.mp hq, hk]
        exact .inr rfl
    · rw [acksUnder_append, Option.toList_some]
      by_cases he : id = a
      · subst he
        rw [hnone, acksUnder_cons_self hk, ha]
        rfl
      · rw [acksUnder_cons_of_ne hk he]
        simpa [acksUnder] using hkinds id he

/-- An operation on an accepted connection that leaves session and broker in step. From what was
under way it takes nothing or the oldest packet, the answers to what it writes join what is left,
and for each identifier what is owed and promised before has happened or is owed after it. -/
structure Keeps (t : TransportId) (input : Input) (packets rest sent : List Packet) (y : Yield) :
    Prop where
  calm : Calm t sent y
  inStep : InStep y.session (rest ++ Broker.replies sent)
  owed : ∀ id, owed id packets ++ (promisedBy input y.result id).toList =
    settling id y.events ++ owed id (rest ++ Broker.replies sent)

namespace InStep

variable {s : Session} {packets : List Packet} (h : InStep s packets) {input : Input} {y : Yield}
  {t : TransportId}
include h

theorem acksUnder_eq_nil {id : UInt16} (hn : s.inflight.awaits id = []) :
    acksUnder id packets = [] := by
  have hk := h.kinds id
  rw [hn] at hk
  exact List.map_eq_nil_iff.mp hk

theorem congr {s' : Session} (ha : ∀ id, s'.inflight.awaits id = s.inflight.awaits id) :
    InStep s' packets :=
  ⟨h.acks, fun id => by rw [ha]; exact h.kinds id⟩

theorem append_pingresp : InStep s (packets ++ [.pingresp]) := by
  refine ⟨?_, ?_⟩
  · intro p hp
    rcases List.mem_append.mp hp with hp | hp
    · exact h.acks p hp
    · exact .inl (List.mem_singleton.mp hp)
  · intro id
    rw [acksUnder_append, acksUnder_cons_of_none rfl]
    simpa [acksUnder] using h.kinds id

theorem append_ack {s' : Session} {p : Packet} {kind : PacketKind} {a : UInt16}
    (hk : p.ack? = some (kind, a)) (hs : s.inflight.awaits a = [])
    (hs' : (s'.inflight.awaits a).head? = some kind)
    (hkept : ∀ id, id ≠ a → s'.inflight.awaits id = s.inflight.awaits id) :
    InStep s' (packets ++ [p]) := by
  have hnext : ∀ q, some p = some q → ∃ kind, q.ack? = some (kind, a) := by
    rintro q ⟨⟩
    exact ⟨kind, hk⟩
  refine .extend h.acks (h.acksUnder_eq_nil hs) ?_ hnext ?_
  · intro id he
    rw [hkept id he]
    exact h.kinds id
  · rw [hs', Option.map_some, Packet.kind_of_ack? hk]

theorem poses {packet : Packet} {v : Session} {granted : Option UInt16}
    (hp : Poses s input packet v granted)
    (hkept : ∀ id, granted ≠ some id → v.inflight.awaits id = s.inflight.awaits id) :
    InStep v (packets ++ (Broker.reply packet).toList) ∧ ∀ id,
      owed id (packets ++ (Broker.reply packet).toList) =
        owed id packets ++ (if granted = some id then input.promises? id else none).toList := by
  cases hp with
  | ping hr =>
    rw [hr]
    refine ⟨(h.congr fun id => hkept id nofun).append_pingresp, fun id => ?_⟩
    rw [owed_append]
    rfl
  | @once a hr hs hv hn =>
    rw [hr, Option.toList_none, List.append_nil]
    refine ⟨h.congr fun id => ?_, fun id => ?_⟩
    · by_cases he : id = a
      · rw [he, hs, hv]
      · exact hkept id fun hae => he (Option.some.inj hae).symm
    · by_cases he : id = a
      · subst he
        simp [hn]
      · simp [Ne.symm he]
  | @opening a p kind hr hk hs hv hf =>
    rw [hr]
    refine ⟨h.append_ack hk hs hv fun id he => hkept id fun hae => he (Option.some.inj hae).symm,
      fun id => ?_⟩
    rw [owed_append]
    by_cases he : id = a
    · subst he
      rw [if_pos rfl, ← hf, Option.toList_some, owed_cons_self hk]
      exact congrArg _ (List.append_nil _)
    · have hne : ¬some a = some id := fun hae => he (Option.some.inj hae).symm
      rw [if_neg hne, Option.toList_some, owed_cons_of_ne hk he]
      rfl

theorem asked {y : Yield} (hy : Transition s none input y) (hs : Bookkeeping s)
    (hst : s.status = .connected) (ht : s.transport = some t)
    (hi : input = .service ∨ ∃ q, input = .request q ∧ q ≠ .disconnect) :
    ∃ sent, Keeps t input packets packets sent y := by
  have hreport : ∀ k report, input ≠ .report k report := by
    rcases hi with rfl | ⟨q, rfl, -⟩ <;> nofun
  have hquiet : ∀ ids, grantedBy y.result = none →
      y = ⟨y.result, { s with ids := ids }, [], []⟩ →
        ∃ sent, Keeps t input packets packets sent y := by
    intro ids hg hyv
    refine ⟨[], ?_, ?_, fun id => ?_⟩
    · rw [hyv]
      exact ⟨rfl, hst, ht⟩
    · rw [hyv]
      rw [Broker.replies_nil, List.append_nil]
      exact h.congr fun _ => rfl
    · have hevents : y.events = [] := by rw [hyv]
      simp [promisedBy, hg, hevents, settling]
  -- What is left are the writes, which succeed as long as the transport is there.
  cases hy with
  | idle hidle => exact hquiet s.ids hidle.grantedBy_eq_none rfl
  | exhausted _ ids _ _ _ _ => exact hquiet ids rfl rfl
  | @wrote _ packet u v events output t' hw ht' _ =>
    rcases hw.connect_or_talk with ⟨_, hin, -⟩ | ⟨-, -, -, hu⟩
    · exact absurd hin (hreport _ _)
    have hv : v.transport = some t := hw.transport_eq.trans (hu.trans ht)
    obtain rfl : t' = t := Option.some.inj (ht'.symm.trans (hu.trans ht))
    have hbind : (s.accepts? input).bind Packet.ack? = none := by
      rcases hi with rfl | ⟨q, rfl, -⟩ <;> rfl
    have hkept : ∀ id, output.granted? ≠ some id →
        v.inflight.awaits id = s.inflight.awaits id :=
      fun id hg => (hw.awaits_eq hg).trans (awaitsAfter_of_bind hbind id)
    obtain ⟨hstep, howed⟩ := h.poses (hw.poses hs hreport) hkept
    refine ⟨[packet], ⟨rfl, hw.frame.2.2.1.trans hst, hv⟩, ?_, fun id => ?_⟩
    · rw [Broker.replies_singleton]
      exact hstep.congr fun _ => rfl
    · rw [Broker.replies_singleton, howed id, hw.settling_eq_nil id]
      rfl
  | @writeFailed _ packet u v events output e hw he =>
    rcases hw.connect_or_talk with ⟨_, hin, -⟩ | ⟨-, -, -, hu⟩
    · exact absurd hin (hreport _ _)
    · simp [writeError, hu, ht] at he
  | disconnected _ =>
    rcases hi with hi | ⟨q, hi, hne⟩
    · cases hi
    · cases hi
      exact absurd rfl hne
  | began _ _ _ _ => rcases hi with hi | ⟨q, hi, -⟩ <;> cases hi
  | discarded _ _ _ | failed _ _ | closed _ | accepted _ _ _ | refused _ _ _ | delivered _ _ _
  | completed _ _ _ _ _ _ _ | ponged _ => exact absurd rfl (hreport _ _)

end InStep

/-! ### An answer comes in -/

namespace InStep

variable {s : Session} {p : Packet} {rest : List Packet} (h : InStep s (p :: rest)) {y : Yield}
  {t : TransportId}
include h

/-- The oldest acknowledgement is the one that its operation waits for, and the only one. -/
theorem head?_awaits {kind : PacketKind} {a : UInt16} (hk : p.ack? = some (kind, a)) :
    (s.inflight.awaits a).head? = some kind ∧ acksUnder a rest = [] := by
  have hkinds := h.kinds a
  rw [acksUnder_cons_self hk, List.map_cons, Packet.kind_of_ack? hk] at hkinds
  cases hhead : (s.inflight.awaits a).head? with
  | none =>
    rw [hhead] at hkinds
    cases hkinds
  | some next =>
    rw [hhead] at hkinds
    obtain ⟨rfl, hrest⟩ := List.cons.inj hkinds
    exact ⟨rfl, List.map_eq_nil_iff.mp hrest⟩

theorem replace {kind : PacketKind} {a : UInt16} (hk : p.ack? = some (kind, a)) {s' : Session}
    (next : Option Packet) (hnext : ∀ q, next = some q → ∃ kind', q.ack? = some (kind', a))
    (ha : (s'.inflight.awaits a).head? = next.map Packet.kind)
    (hkept : ∀ id, id ≠ a → s'.inflight.awaits id = s.inflight.awaits id) :
    InStep s' (rest ++ next.toList) := by
  refine .extend (fun q hq => h.acks q (List.mem_cons_of_mem p hq)) (h.head?_awaits hk).2 ?_
    hnext ha
  intro id he
  have hkinds := h.kinds id
  rw [acksUnder_cons_of_ne hk he] at hkinds
  rw [hkept id he, hkinds]

theorem tail_of_pingresp (hp : p = .pingresp) : InStep s rest := by
  refine ⟨fun q hq => h.acks q (List.mem_cons_of_mem p hq), fun id => ?_⟩
  have hkinds := h.kinds id
  rw [hp, acksUnder_cons_of_none rfl] at hkinds
  exact hkinds

end InStep

/-- What comes of the delivery of the oldest packet: less than before is left to do. -/
structure Forwards (s : Session) (t : TransportId) (p : Packet) (rest sent : List Packet)
    (y : Yield) : Prop extends
    Keeps t (.report s.attempt (.received p)) (p :: rest) rest sent y where
  load : load (rest ++ Broker.replies sent) + 1 = load (p :: rest)

section Delivery

variable {s : Session} {p : Packet} {rest : List Packet} {y : Yield} {t : TransportId}

theorem Transition.of_pingresp {fault : Option Error}
    (h : Transition s fault (.report s.attempt (.received .pingresp)) y)
    (hst : s.status = .connected) : y = ⟨.ok .done, s, [.pingResponse], []⟩ := by
  cases h with
  | idle hi =>
    cases hi with
    | staleReport _ _ ha _ => exact absurd rfl ha
    | outOfPlace _ _ hne => exact absurd hst hne
    | neverFromServer _ hp | nothingPending _ _ hp _ => cases hp
  | wrote hw _ _ => cases hw
  | writeFailed hw _ => cases hw
  | completed _ _ _ _ _ hp _ => cases hp
  | ponged _ => rfl

theorem InStep.forwards_pingresp (h : InStep s (.pingresp :: rest))
    (hy : Transition s none (.report s.attempt (.received .pingresp)) y)
    (hst : s.status = .connected) (ht : s.transport = some t) :
    Forwards s t .pingresp rest [] y := by
  obtain rfl := hy.of_pingresp hst
  refine ⟨⟨⟨rfl, hst, ht⟩, ?_, fun id => ?_⟩, ?_⟩
  · rw [Broker.replies_nil, List.append_nil]
    exact h.tail_of_pingresp rfl
  · rw [promisedBy_report, Option.toList_none, Broker.replies_nil, List.append_nil, List.append_nil]
    rfl
  · rw [Broker.replies_nil, List.append_nil]
    exact Nat.add_comm _ _

theorem InStep.forwards_completion (h : InStep s (p :: rest)) {a : UInt16} {event : Event}
    (hc : p.completion = some (a, event))
    (hy : Transition s none (.report s.attempt (.received p)) y) (hs : Bookkeeping s)
    (hst : s.status = .connected) (ht : s.transport = some t) : Forwards s t p rest [] y := by
  obtain ⟨kind, hk⟩ := Packet.ack?_of_completion hc
  obtain ⟨hhead, hnone⟩ := h.head?_awaits hk
  have hsome : p.completion.isSome := by rw [hc]; rfl
  rcases hy.of_completion hst hc with ⟨hn, -⟩ | ⟨f, hf, rfl⟩
  · exact absurd hhead (Inflight.head?_awaits_of_onAck hsome hk hn)
  · have hawaits := hs.orderly.awaits_onAck hc hk hf
    have hsettled := (hs.orderly.onAck hc hf).2.2.1
    have hempty : f.awaits a = [] := by
      rw [hawaits, if_pos rfl, hs.orderly.awaits_of_onAck hsome hk hf, advance_cons_self]
    have hkept : ∀ id, id ≠ a → f.awaits id = s.inflight.awaits id := by
      intro id he
      rw [hawaits, if_neg he]
    refine ⟨⟨⟨rfl, hst, ht⟩, ?_, fun id => ?_⟩, ?_⟩
    · exact h.replace hk none nofun (by rw [hempty]; rfl) hkept
    · rw [promisedBy_report, Option.toList_none, List.append_nil, Broker.replies_nil,
        List.append_nil]
      by_cases he : id = a
      · subst he
        rw [owed_cons_self hk, Packet.foretells?_of_completion hc]
        simp [settling, hsettled]
      · rw [owed_cons_of_ne hk he]
        simp [settling, hsettled, Ne.symm he]
    · have hwork : Bench.workload p = 1 := by cases p <;> cases hc <;> rfl
      rw [Broker.replies_nil, List.append_nil]
      change load rest + 1 = Bench.workload p + load rest
      rw [hwork, Nat.add_comm]

theorem Transition.of_awaited_receipt {a : UInt16}
    (h : Transition s none (.report s.attempt (.received (.pubrec a))) y)
    (hst : s.status = .connected) (ht : s.transport = some t)
    (ha : (s.inflight.awaits a).head? = some .pubrec) :
    ∃ f, s.inflight.onPubrec a = some f ∧
      y = ⟨.ok .done, Session.written { s with inflight := f }, [], [.wrote t (.pubrel a)]⟩ := by
  cases h with
  | idle hi =>
    cases hi with
    | staleReport _ _ ha _ => exact absurd rfl ha
    | outOfPlace _ _ hne => exact absurd hst hne
    | nothingToRelease _ _ hr => exact absurd ha (Inflight.head?_awaits_of_onPubrec hr)
    | neverFromServer _ hp | nothingPending _ _ hp _ => cases hp
  | @wrote _ _ _ _ _ _ transport hw ht' _ =>
    cases hw with
    | pubrel _ f _ hr =>
      obtain rfl : transport = t := Option.some.inj (ht'.symm.trans ht)
      exact ⟨f, hr, rfl⟩
  | @writeFailed _ _ _ _ _ _ e hw he =>
    cases hw with
    | pubrel _ f _ hr => simp [writeError, ht] at he
  | completed _ _ _ _ _ hp _ => cases hp

theorem InStep.forwards_receipt {a : UInt16} (h : InStep s (.pubrec a :: rest))
    (hy : Transition s none (.report s.attempt (.received (.pubrec a))) y)
    (hst : s.status = .connected) (ht : s.transport = some t) :
    Forwards s t (.pubrec a) rest [.pubrel a] y := by
  have hk : (Packet.pubrec a).ack? = some (.pubrec, a) := rfl
  have hk' : (Packet.pubcomp a).ack? = some (.pubcomp, a) := rfl
  obtain ⟨hhead, hnone⟩ := h.head?_awaits hk
  obtain ⟨f, hf, rfl⟩ := hy.of_awaited_receipt hst ht hhead
  have hawaits := Inflight.awaits_onPubrec hf
  have hnext : f.awaits a = [.pubcomp] := by
    rw [hawaits, if_pos rfl, Inflight.awaits_of_head?_pubrec hhead, advance_cons_self]
  have hkept : ∀ id, id ≠ a → f.awaits id = s.inflight.awaits id := by
    intro id he
    rw [hawaits, if_neg he]
  refine ⟨⟨⟨rfl, hst, ht⟩, ?_, fun id => ?_⟩, ?_⟩
  · refine h.replace hk (some (.pubcomp a)) ?_ (congrArg List.head? hnext) hkept
    rintro q ⟨⟩
    exact ⟨.pubcomp, hk'⟩
  · change _ = [] ++ owed id (rest ++ [.pubcomp a])
    rw [promisedBy_report, Option.toList_none, List.append_nil, owed_append]
    by_cases he : id = a
    · subst he
      rw [owed_cons_self hk, owed_cons_self hk', owed_eq_nil hnone]
      rfl
    · rw [owed_cons_of_ne hk he, owed_cons_of_ne hk' he]
      exact (List.append_nil _).symm
  · change load (rest ++ [.pubcomp a]) + 1 = 2 + load rest
    rw [load_append]
    change load rest + 1 + 1 = 2 + load rest
    omega

theorem InStep.forwards (h : InStep s (p :: rest))
    (hy : Transition s none (.report s.attempt (.received p)) y) (hs : Bookkeeping s)
    (hst : s.status = .connected) (ht : s.transport = some t) :
    ∃ sent, Forwards s t p rest sent y := by
  rcases h.acks p List.mem_cons_self with rfl | hack
  · exact ⟨_, h.forwards_pingresp hy hst ht⟩
  · obtain ⟨⟨kind, a⟩, hk⟩ := Option.isSome_iff_exists.mp hack
    rcases Packet.eq_pubrec_or_completion hk with ⟨rfl, -⟩ | ⟨event, hc⟩
    · exact ⟨_, h.forwards_receipt hy hst ht⟩
    · exact ⟨_, h.forwards_completion hc hy hs hst ht⟩

end Delivery

/-! ### Promises kept -/

/-- The completions that some moves have promised for an identifier, in order. -/
def promised (id : UInt16) (ms : List Move) : List Event :=
  ms.filterMap fun m => promisedBy m.action.input m.result id

theorem promised_append (id : UInt16) (ms ms' : List Move) :
    promised id (ms ++ ms') = promised id ms ++ promised id ms' := List.filterMap_append ..

theorem promised_cons (id : UInt16) (m : Move) (ms : List Move) :
    promised id (m :: ms) = (promisedBy m.action.input m.result id).toList ++ promised id ms := by
  rw [promised, List.filterMap_cons]
  cases promisedBy m.action.input m.result id <;> rfl

theorem granted_of_promisedBy {m : Move} {id : UInt16} {e : Event}
    (h : promisedBy m.action.input m.result id = some e) : m.granted? = some id := by
  unfold promisedBy at h
  split_ifs at h with hg
  exact hg

theorem promised_of_ungranted {id : UInt16} {ms : List Move} (h : Ungranted id ms) :
    promised id ms = [] := by
  rw [promised, List.filterMap_eq_nil_iff]
  intro m hm
  exact if_neg (h m hm)

/-- If all that was promised for an identifier has happened before it is granted once more, and
again some time later, then the event that was promised in between has happened in between, and no
other. -/
theorem kept_of_promised {m : Move} (hm : Bookkeeping m.before) {id : UInt16}
    {earlier window : List Move} (hbefore : promised id earlier = settlements id earlier)
    (hafter : promised id (earlier ++ m :: window) = settlements id (earlier ++ m :: window))
    {e : Event} (hp : promisedBy m.action.input m.result id = some e) (hn : Ungranted id window) :
    settlements id window = [e] := by
  have hg := granted_of_promisedBy hp
  have hsettling : settling id m.events = [] := by
    have ha := m.account hm id
    rw [Move.operation?_of_granted hm hg] at ha
    exact ha.eq_nil
  rw [promised_append, promised_cons, settlements_append, settlements_cons, hbefore, hp, hsettling,
    promised_of_ungranted hn] at hafter
  exact (List.append_cancel_left hafter).symm

end Session
end Mqtt
