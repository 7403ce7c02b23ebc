import Mqtt.Proofs.Settlement
import Mqtt.Simulation.Traffic

/-!
# Nothing that a server sends breaks a connection

Whatever packets come in on an accepted connection, in whatever order and with whatever fields: as
long as the transport takes what it is handed, the connection stays as it is. All that a server can
bring about is that messages are delivered and operations completed, and that it is answered.
-/

namespace Mqtt.Session

structure Withstands (s : Session) (y : Yield) : Prop where
  result : y.result = .ok .done
  status : y.session.status = .connected
  transport : y.session.transport = s.transport
  attempt : y.session.attempt = s.attempt
  clientId : y.session.clientId = s.clientId
  events : ∀ e ∈ y.events,
    e.kind ∉ [.connectResult, .connectionClosed, .publishSent, .operationAbandoned]
  io : y.io = [] ∨ ∃ transport reply, s.transport = some transport ∧
    y.io = [.wrote transport reply] ∧ reply.kind ∈ [.puback, .pubrec, .pubrel, .pubcomp]

section Rules

variable {s : Session} {fault : Option Error} {k : Nat} {packet : Packet}

theorem Idle.withstands {result : Except Error Output}
    (h : Idle s (.report k (.received packet)) result) (hs : s.status = .connected) :
    Withstands s ⟨result, s, [], []⟩ := by
  have hr : result = .ok .done := by cases h <;> rfl
  exact ⟨hr, hs, rfl, rfl, rfl, nofun, .inl rfl⟩

theorem Writes.of_received {u v : Session} {reply : Packet} {events : List Event} {output : Output}
    (h : Writes s (.report k (.received packet)) reply u v events output) :
    output = .done ∧ u.transport = s.transport ∧ v.clientId = s.clientId ∧
      reply.kind ∈ [.puback, .pubrec, .pubrel, .pubcomp] ∧
      ∀ e ∈ events, e.kind = .publishReceived := by
  cases h with
  | pubrec _ _ _ _ hu =>
    subst hu
    exact ⟨rfl, rfl, rfl, by simp [Packet.kind], nofun⟩
  | puback _ _ _ | pubrel _ _ _ _ | pubcompOnly _ _ _ | pubcomp _ _ _ _ _ =>
    exact ⟨rfl, rfl, rfl, by simp [Packet.kind], by simp [Event.kind]⟩

theorem Transition.withstands {y : Yield} {transport : TransportId}
    (h : Transition s fault (.report s.attempt (.received packet)) y) (hs : s.status = .connected)
    (ht : s.transport = some transport) (hw : ∀ x ∈ y.io, x.attempted? = x.packet?) :
    Withstands s y := by
  cases h with
  | idle hi => exact hi.withstands hs
  | @wrote _ _ _ v events _ transport' hwrites ht' _ =>
    obtain ⟨-, -, hst, ha⟩ := hwrites.frame
    obtain ⟨rfl, hu, hc, hr, he⟩ := hwrites.of_received
    have hv : v.transport = s.transport := hwrites.transport_eq.trans hu
    refine ⟨rfl, hst.trans hs, hv, ha, hc, ?_, .inr ⟨transport', _, hu ▸ ht', rfl, hr⟩⟩
    intro e hin
    simp [he e hin]
  | @writeFailed _ reply u _ _ _ e hwrites _ =>
    -- There is a transport, which has refused the reply.
    have hu : u.transport = some transport := hwrites.of_received.2.1.trans ht
    have hin : .refused transport reply ∈ u.lastWords reply := by simp [lastWords, hu]
    cases hw _ hin
  | accepted _ hne _ | refused _ hne _ => simp [hs] at hne
  | delivered _ _ _ | ponged _ =>
    exact ⟨rfl, hs, rfl, rfl, rfl, by simp [Event.kind], .inl rfl⟩
  | completed _ _ event _ _ hp _ =>
    refine ⟨rfl, hs, rfl, rfl, rfl, ?_, .inl rfl⟩
    cases packet <;> cases hp <;> simp [Event.kind]

end Rules

/-! ### Sequences of packets -/

theorem Move.withstands {m : Move} {packet : Packet} {transport : TransportId}
    (hi : m.action.input = .report m.before.attempt (.received packet))
    (hs : m.before.status = .connected) (ht : m.before.transport = some transport)
    (hw : ∀ x ∈ m.io, x.attempted? = x.packet?) :
    Withstands m.before ⟨m.result, m.after, m.events, m.io⟩ := by
  have h := (m.transition_of hi).withstands hs ht hw
  exact ⟨h.result, h.status, h.transport, h.attempt, h.clientId, h.events, h.io⟩

theorem Move.loses_only {m : Move} (hm : Bookkeeping m.before) (hg : m.granted? = none) :
    (∀ id, m.after.ids.isBound id → m.before.ids.isBound id) ∧
      m.after.inflight.pending ⊆ m.before.inflight.pending := by
  have hbefore : ∀ {id : UInt16} {operation : Abandoned},
      m.after.inflight.operation? id = some operation →
        m.before.inflight.operation? id = some operation := by
    intro id operation ho
    have ha := m.account hm id
    rw [ho, hg] at ha
    exact (ha.eq_some_before nofun).1
  constructor
  · intro id hid
    rw [(m.bookkeeping hm).isBound_eq, Option.isSome_iff_exists] at hid
    obtain ⟨operation, ho⟩ := hid
    rw [hm.isBound_eq, hbefore ho]
    rfl
  · intro operation hin
    have ho := ((m.bookkeeping hm).orderly.mem_pending_iff operation).mp hin
    exact (hm.orderly.mem_pending_iff operation).mpr (hbefore ho)

/-- Each packet of a sequence finds the connection as the first one found it. -/
theorem withstands_moves {s : Session} {transport : TransportId} (hb : Bookkeeping s)
    (hs : s.status = .connected) (ht : s.transport = some transport) (bs : List Action)
    (hp : ∀ b ∈ bs, ∃ packet, b.input = .report s.attempt (.received packet))
    (hw : ∀ m ∈ s.moves bs, ∀ x ∈ m.io, x.attempted? = x.packet?) :
    ∀ m ∈ s.moves bs, Bookkeeping m.before ∧ m.before.transport = some transport ∧
      m.before.attempt = s.attempt ∧ m.before.clientId = s.clientId ∧
      Withstands m.before ⟨m.result, m.after, m.events, m.io⟩ := by
  induction bs generalizing s with
  | nil => exact fun _ hm => absurd hm List.not_mem_nil
  | cons b bs ih =>
    obtain ⟨packet, hi⟩ := hp b List.mem_cons_self
    rw [moves_cons] at hw ⊢
    generalize hfirst : Move.mk s b = first at hw ⊢
    obtain ⟨rfl, rfl⟩ := Move.mk.inj hfirst
    have h := first.withstands hi hs ht (hw first List.mem_cons_self)
    intro m hm
    rcases List.mem_cons.mp hm with rfl | hm
    · exact ⟨hb, ht, rfl, rfl, h⟩
    · have hattempt : first.after.attempt = first.before.attempt := h.attempt
      have hclient : first.after.clientId = first.before.clientId := h.clientId
      rw [← hattempt] at hp
      rw [← hattempt, ← hclient]
      exact ih (first.bookkeeping hb) h.status (h.transport.trans ht)
        (fun c hc => hp c (List.mem_cons_of_mem _ hc))
        (fun n hn => hw n (List.mem_cons_of_mem _ hn)) m hm

/-- No sequence of packets makes an operation fail, ends an accepted connection, or leads to
anything but deliveries, completions and answers. -/
theorem packets_cannot_break_connection (o : ConnectOptions) (as bs : List Action)
    (transport : TransportId) (hs : ((new o).run as).status = .connected)
    (ht : ((new o).run as).transport = some transport)
    (hp : ∀ b ∈ bs, ∃ packet, b.input = .report ((new o).run as).attempt (.received packet))
    (hw : ∀ m ∈ ((new o).run as).moves bs, ∀ x ∈ m.io, x.attempted? = x.packet?) :
    ∀ m ∈ ((new o).run as).moves bs,
      m.result = .ok .done ∧ m.after.status = .connected ∧ m.after.transport = some transport ∧
      m.after.attempt = ((new o).run as).attempt ∧
      m.after.clientId = ((new o).run as).clientId ∧
      (∀ e ∈ m.events,
        e.kind ∉ [.connectResult, .connectionClosed, .publishSent, .operationAbandoned]) ∧
      (∀ id, m.after.ids.isBound id → m.before.ids.isBound id) ∧
      m.after.inflight.pending ⊆ m.before.inflight.pending ∧
      (m.io = [] ∨ ∃ reply, m.io = [.wrote transport reply] ∧
        reply.kind ∈ [.puback, .pubrec, .pubrel, .pubcomp]) := by
  intro m hm
  obtain ⟨hb, ht', ha, hc, h⟩ := withstands_moves (bookkeeping_run o as) hs ht bs hp hw m hm
  have hg : m.granted? = none := congrArg grantedBy h.result
  obtain ⟨hids, hpending⟩ := Move.loses_only hb hg
  refine ⟨h.result, h.status, h.transport.trans ht', h.attempt.trans ha, h.clientId.trans hc,
    h.events, hids, hpending, ?_⟩
  rcases h.io with hio | ⟨t, reply, ht'', hio, hr⟩
  · exact .inl hio
  · obtain rfl : t = transport := Option.some.inj (ht''.symm.trans ht')
    exact .inr ⟨reply, hio, hr⟩

/-- A server that answers a publish with all that is out of place: refusals, receipts and releases
of nothing, requests of its own. -/
theorem packets_cannot_break_connection_hostile :
    let as : List Action :=
      [⟨.startConnect "", 0, none⟩, ⟨.report 1 (.opened 0), 0, none⟩,
        ⟨.report 1 (.received (.connack ⟨false, .accepted⟩)), 0, none⟩,
        ⟨.request (.publish ⟨0, "a", .atLeastOnce, false, false, .empty⟩), 0, none⟩]
    let packets : List Packet :=
      [.connack ⟨false, .notAuthorized⟩, .pubrec 1, .pubrel 7, .suback ⟨1, []⟩, .disconnect,
        .publish ⟨0, "", .exactlyOnce, true, false, .empty⟩, .subscribe ⟨0, []⟩]
    let ms := ((new {}).run as).moves (packets.map fun p => ⟨.report 1 (.received p), 0, none⟩)
    ms.flatMap Move.io = [.wrote 0 (.pubcomp 7), .wrote 0 (.pubrec 0)] ∧
      ∀ m ∈ ms, m.result = .ok .done ∧ m.after.status = .connected := by
  intro as packets ms
  have hio : ms.flatMap Move.io = [.wrote 0 (.pubcomp 7), .wrote 0 (.pubrec 0)] := by
    simp only [ms, as, packets]
    decide +kernel
  have hw : ∀ m ∈ ms, ∀ x ∈ m.io, x.attempted? = x.packet? := by
    intro m hm x hx
    have hin : x ∈ ms.flatMap Move.io := List.mem_flatMap.mpr ⟨m, hm, hx⟩
    rw [hio] at hin
    rcases List.mem_cons.mp hin with rfl | hin
    · rfl
    · cases List.mem_singleton.mp hin
      rfl
  have hp : ∀ b ∈ packets.map fun p => (⟨.report 1 (.received p), 0, none⟩ : Action),
      ∃ packet, b.input = .report 1 (.received packet) := by
    intro b hb
    obtain ⟨p, -, rfl⟩ := List.mem_map.mp hb
    exact ⟨p, rfl⟩
  refine ⟨hio, fun m hm => ?_⟩
  obtain ⟨hr, hst, -⟩ := packets_cannot_break_connection {} as _ 0 rfl rfl hp hw m hm
  exact ⟨hr, hst⟩

end Mqtt.Session
