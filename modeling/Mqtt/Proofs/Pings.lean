import Mqtt.Proofs.Acknowledgement
import Mqtt.Proofs.Punctual

/-!
# Pings

A session keeps one time for its pings, that of the last write. Read from the outside, it is the
time of the last operation in whose course the installed transport took a packet: whatever installs
another transport writes to it, and whatever removes one forgets the time. So a connection is pinged
exactly when nothing has been written to it for an interval.
-/

namespace Mqtt

theorem KeepAlive.isDue_iff {k : KeepAlive} {due now : Int} (h : k.nextPing = some due) :
    k.isDue now ↔ due ≤ now := by
  simp [isDue, h]

namespace Session

def Move.writesTo (m : Move) (transport : TransportId) : Bool :=
  m.io.any fun x => x.transport = transport && x.packet?.isSome

/-- The time of the last move in which a transport took a packet. -/
def lastWrite? (transport : TransportId) (ms : List Move) : Option Int :=
  (ms.filter (·.writesTo transport)).getLast?.map (·.action.now)

theorem lastWrite?_concat (transport : TransportId) (ms : List Move) (m : Move) :
    lastWrite? transport (ms ++ [m]) =
      if m.writesTo transport then some m.action.now else lastWrite? transport ms := by
  cases h : m.writesTo transport <;> simp [lastWrite?, List.filter_append, h]

section Rules

variable {s : Session} {fault : Option Error} {input : Input} {y : Yield}

/-- An operation leaves the monitor and the transport as they are and writes nothing, or it writes
to the transport that is now installed and notes the time, or there is no transport any more, and no
time. -/
theorem Transition.stamped (h : Transition s fault input y) :
    y.session.transport = s.transport ∧ y.session.keepAlive = s.keepAlive ∧
        (∀ x ∈ y.io, x.packet? = none) ∨
      (∃ transport packet, y.session.transport = some transport ∧
        y.io = [.wrote transport packet] ∧ y.session.keepAlive.lastWrite = some s.now) ∨
      y.session.transport = none ∧ y.session.keepAlive.lastWrite = none := by
  cases h with
  | @wrote _ packet u v _ _ transport hw ht _ =>
    have hlast : v.written.keepAlive.lastWrite = some s.now := by
      rw [← hw.now_eq]
      rfl
    exact .inr (.inl ⟨transport, packet, hw.transport_eq.trans ht, rfl, hlast⟩)
  | writeFailed _ _ | closed _ | refused _ _ _ | disconnected _ => exact .inr (.inr ⟨rfl, rfl⟩)
  | discarded attempt transport _ =>
    refine .inl ⟨rfl, rfl, fun x hx => ?_⟩
    cases List.mem_singleton.mp hx
    rfl
  | idle _ | began _ _ _ _ | failed _ _ | accepted _ _ _ | delivered _ _ _
  | completed _ _ _ _ _ _ _ | ponged _ | exhausted _ _ _ _ _ _ =>
    exact .inl ⟨rfl, rfl, fun x hx => absurd hx List.not_mem_nil⟩

theorem Transition.of_service (h : Transition s fault .service y) :
    (s.status = .connected ∧ s.keepAlive.isDue s.now →
      (∃ transport, y = ⟨.ok .done, s.written, [], [.wrote transport .pingreq]⟩) ∨
        ∃ e, y = ⟨.error e, s.ended, s.farewell e, s.lastWords .pingreq⟩) ∧
    (¬(s.status = .connected ∧ s.keepAlive.isDue s.now) → y = ⟨.ok .done, s, [], []⟩) := by
  cases h with
  | idle hi =>
    cases hi with
    | notDue hnot => exact ⟨fun hdue => absurd hdue hnot, fun _ => rfl⟩
  | @wrote _ _ _ _ _ _ transport hw _ _ =>
    cases hw with
    | keepAlive hs hd => exact ⟨fun _ => .inl ⟨transport, rfl⟩, fun hnot => absurd ⟨hs, hd⟩ hnot⟩
  | @writeFailed _ _ _ _ _ _ e hw _ =>
    cases hw with
    | keepAlive hs hd => exact ⟨fun _ => .inr ⟨e, rfl⟩, fun hnot => absurd ⟨hs, hd⟩ hnot⟩

end Rules

/-! ### The time of the last write -/

theorem Move.stamped {m : Move} {ms : List Move}
    (h : m.before.keepAlive.lastWrite = m.before.transport.bind (lastWrite? · ms)) :
    m.after.keepAlive.lastWrite = m.after.transport.bind (lastWrite? · (ms ++ [m])) := by
  rcases m.transition.stamped with ⟨ht, hk, hio⟩ | ⟨transport, packet, ht, hio, hk⟩ | ⟨ht, hk⟩
  · have hno : ∀ transport, m.writesTo transport = false := by
      intro transport
      rw [Move.writesTo, List.any_eq_false]
      intro x hx
      simp [hio x hx]
    simp only [lastWrite?_concat, hno, Bool.false_eq_true, if_false]
    rw [show m.after.keepAlive = m.before.keepAlive from hk,
      show m.after.transport = m.before.transport from ht]
    exact h
  · have hyes : m.writesTo transport = true := by
      rw [Move.writesTo, show m.io = [.wrote transport packet] from hio]
      simp [Io.transport, Io.packet?]
    rw [show m.after.transport = some transport from ht, Option.bind_some, lastWrite?_concat,
      if_pos hyes]
    exact hk
  · rw [show m.after.transport = none from ht]
    exact hk

theorem stamped_run (o : ConnectOptions) (as : List Action) :
    ((new o).run as).keepAlive.lastWrite =
      ((new o).run as).transport.bind (lastWrite? · ((new o).moves as)) := by
  induction as using List.reverseRecOn with
  | nil => rfl
  | append_singleton as a ih =>
    rw [run_concat, moves_concat]
    exact Move.stamped ih

theorem lastWrite_of_connected (o : ConnectOptions) (as : List Action)
    (h : Networked ((new o).moves as)) (hs : ((new o).run as).status = .connected) :
    ∃ transport w, ((new o).run as).transport = some transport ∧
      lastWrite? transport ((new o).moves as) = some w ∧
      ((new o).run as).keepAlive.lastWrite = some w := by
  obtain ⟨transport, ht⟩ := Option.isSome_iff_exists.mp (transport_of_connected o as h hs)
  have hstamped : ((new o).run as).keepAlive.lastWrite =
      lastWrite? transport ((new o).moves as) := by
    rw [stamped_run o as, ht, Option.bind_some]
  have hsome : ((new o).run as).keepAlive.lastWrite.isSome := by
    rw [(armed_run o as).lastWrite, ht]
    rfl
  obtain ⟨w, hw⟩ := Option.isSome_iff_exists.mp hsome
  exact ⟨transport, w, ht, hstamped.symm.trans hw, hw⟩

/-! ### When to ping -/

theorem interval_run (o : ConnectOptions) (as : List Action) :
    ((new o).run as).keepAlive.interval =
      if o.autoKeepAlive ∧ o.keepAlive ≠ 0 then some o.keepAlive.toNat else none := by
  rw [(armed_run o as).interval, options_run]
  simp [new, KeepAlive.ofSeconds, UInt16.pos_iff_ne_zero]

/-- A move that does nothing but go with the time. -/
structure Move.Rests (m : Move) : Prop where
  result : m.result = .ok .done
  after : m.after = m.before.atTime m.action.now
  events : m.events = []
  io : m.io = []

section Service

variable {s : Session} {now : Int} {fault : Option Error}

theorem attempted_service (ht : s.transport.isSome) (hs : s.status = .connected)
    (hd : s.keepAlive.isDue now) :
    (Move.mk s ⟨.service, now, fault⟩).attempted = [.pingreq] := by
  obtain ⟨transport, htransport⟩ := Option.isSome_iff_exists.mp ht
  rcases (Move.mk s ⟨.service, now, fault⟩).transition.of_service.1 ⟨hs, hd⟩ with ⟨_, hy⟩ | ⟨e, hy⟩
  · have hio : (Move.mk s ⟨.service, now, fault⟩).io = [.wrote _ .pingreq] := congrArg Yield.io hy
    rw [Move.attempted, hio]
    rfl
  · have hio : (Move.mk s ⟨.service, now, fault⟩).io = (s.atTime now).lastWords .pingreq :=
      congrArg Yield.io hy
    have hstart : (s.atTime now).transport = some transport := htransport
    rw [Move.attempted, hio, attempted_lastWords, hstart]
    rfl

theorem rests_service (h : ¬(s.status = .connected ∧ s.keepAlive.isDue now)) :
    (Move.mk s ⟨.service, now, fault⟩).Rests := by
  have hy := (Move.mk s ⟨.service, now, fault⟩).transition.of_service.2 h
  exact ⟨congrArg Yield.result hy, congrArg Yield.session hy, congrArg Yield.events hy,
    congrArg Yield.io hy⟩

theorem result_nextService (s : Session) (now : Int) (fault : Option Error) :
    (Move.mk s ⟨.nextService, now, fault⟩).result =
      .ok (.due (if s.status = .connected then s.keepAlive.nextPing else none)) := rfl

/-- The next ping of a connection that has outlasted a service lies ahead. -/
theorem lt_nextPing_service {seconds : Nat} (hseconds : 0 < seconds)
    (hinterval : s.keepAlive.interval = some seconds)
    (hlast : s.status = .connected → ∃ last, s.keepAlive.lastWrite = some last)
    (hs : (Move.mk s ⟨.service, now, fault⟩).after.status = .connected) :
    ∃ due, now < due ∧
      (Move.mk s ⟨.service, now, fault⟩).after.keepAlive.nextPing = some due := by
  set m : Move := ⟨s, ⟨.service, now, fault⟩⟩
  obtain ⟨hping, hrest⟩ := m.transition.of_service
  -- A ping moves the next one on; without a ping the next one has not been due yet.
  by_cases hdue : s.status = .connected ∧ s.keepAlive.isDue now
  · rcases hping hdue with ⟨_, hy⟩ | ⟨e, hy⟩
    · have hafter : m.after.keepAlive = s.keepAlive.onWrite now :=
        congrArg (·.session.keepAlive) hy
      refine ⟨now + seconds * KeepAlive.microsPerSecond, ?_, ?_⟩
      · simp only [KeepAlive.microsPerSecond]
        omega
      · rw [hafter, KeepAlive.nextPing, KeepAlive.interval_onWrite, hinterval]
        rfl
    · have hended : m.after.status = .disconnected := congrArg (·.session.status) hy
      rw [hended] at hs
      cases hs
  · have hafter : m.after = m.start := congrArg Yield.session (hrest hdue)
    rw [hafter] at hs
    obtain ⟨last, hlast⟩ := hlast hs
    have hnext : s.keepAlive.nextPing = some (last + seconds * KeepAlive.microsPerSecond) := by
      rw [KeepAlive.nextPing, hinterval, hlast]
    refine ⟨_, ?_, (congrArg (·.keepAlive.nextPing) hafter).trans hnext⟩
    have hnot : ¬s.keepAlive.isDue now := fun hd => hdue ⟨hs, hd⟩
    rw [KeepAlive.isDue_iff hnext] at hnot
    omega

end Service

/-- A connection is pinged exactly when nothing has been written to it for an interval. Whatever
happened before, as long as reports come from a network, and at whatever times: an accepted
connection has a transport, and the last write to it a time; with keep alive turned on, the session
asks for a service an interval after that time, a service from then on attempts one PINGREQ, and one
before then does nothing. Without keep alive, or while no connection is accepted, it asks for no
service, and a service does nothing. After each service that a connection outlasts, the next one is
asked for at a later time, and a second one at the same time does nothing. -/
theorem pings_when_idle (o : ConnectOptions) (as : List Action)
    (h : Networked ((new o).moves as)) :
    let s := (new o).run as
    let interval : Int := o.keepAlive.toNat * KeepAlive.microsPerSecond
    let keeps : Prop := o.autoKeepAlive ∧ o.keepAlive ≠ 0
    (s.status = .connected → keeps →
      ∃ transport w, s.transport = some transport ∧
        lastWrite? transport ((new o).moves as) = some w ∧
        ∀ now fault,
          (Move.mk s ⟨.nextService, now, fault⟩).result = .ok (.due (some (w + interval))) ∧
          (w + interval ≤ now →
            (Move.mk s ⟨.service, now, fault⟩).attempted = [.pingreq]) ∧
          (now < w + interval → (Move.mk s ⟨.service, now, fault⟩).Rests)) ∧
    (¬(s.status = .connected ∧ keeps) → ∀ now fault,
      (Move.mk s ⟨.nextService, now, fault⟩).result = .ok (.due none) ∧
        (Move.mk s ⟨.service, now, fault⟩).Rests) ∧
    ∀ now fault,
      let m := Move.mk s ⟨.service, now, fault⟩
      m.after.status = .connected → keeps →
        (∃ due, now < due ∧ ∀ now' fault',
          (Move.mk m.after ⟨.nextService, now', fault'⟩).result = .ok (.due (some due))) ∧
        ∀ fault', (Move.mk m.after ⟨.service, now, fault'⟩).Rests := by
  intro s interval keeps
  have hinterval := interval_run o as
  refine ⟨fun hs hk => ?_, fun hnot now fault => ?_, ?_⟩
  · obtain ⟨transport, w, ht, hw, hkeep⟩ := lastWrite_of_connected o as h hs
    have hnext : s.keepAlive.nextPing = some (w + interval) := by
      rw [KeepAlive.nextPing, hinterval, if_pos hk, hkeep]
    refine ⟨transport, w, ht, hw, fun now fault => ⟨?_, fun hdue => ?_, fun hearly => ?_⟩⟩
    · rw [result_nextService, if_pos hs, hnext]
    · exact attempted_service (Option.isSome_of_eq_some ht) hs
        ((KeepAlive.isDue_iff hnext).mpr hdue)
    · refine rests_service fun hdue => ?_
      have := (KeepAlive.isDue_iff hnext).mp hdue.2
      omega
  · have hnone : (if s.status = .connected then s.keepAlive.nextPing else none) = none := by
      split
      case isTrue hs =>
        have hk : ¬keeps := fun hk => hnot ⟨hs, hk⟩
        rw [KeepAlive.nextPing, hinterval, if_neg hk]
      case isFalse => rfl
    refine ⟨?_, rests_service fun hdue => ?_⟩
    · rw [result_nextService, hnone]
    · rw [if_pos hdue.1] at hnone
      have hd := hdue.2
      simp [KeepAlive.isDue, hnone] at hd
  · intro now fault m hm hk
    have hseconds : 0 < o.keepAlive.toNat :=
      UInt16.lt_iff_toNat_lt.mp (UInt16.pos_iff_ne_zero.mpr hk.2)
    have hlast' : s.status = .connected → ∃ last, s.keepAlive.lastWrite = some last := by
      intro hs
      obtain ⟨_, w, -, -, hw⟩ := lastWrite_of_connected o as h hs
      exact ⟨w, hw⟩
    obtain ⟨due, hlt, hnext⟩ :=
      lt_nextPing_service hseconds (hinterval.trans (if_pos hk)) hlast' hm
    refine ⟨⟨due, hlt, fun now' fault' => ?_⟩, fun fault' => rests_service fun hdue => ?_⟩
    · rw [result_nextService, if_pos hm, hnext]
    · have := (KeepAlive.isDue_iff hnext).mp hdue.2
      omega

/-- A connection whose CONNECT waited for its answer for longer than the interval is pinged
at once. -/
theorem pings_when_idle_late :
    let begins : Action := ⟨.startConnect "", 0, none⟩
    let opens : Action := ⟨.report 1 (.opened 0), 1000000, none⟩
    let accepts : Action := ⟨.report 1 (.received (.connack ⟨false, .accepted⟩)), 40000000, none⟩
    let s := (new {}).run [begins, opens, accepts]
    Networked ((new {}).moves [begins, opens, accepts]) ∧
      (Move.mk s ⟨.service, 40000000, none⟩).attempted = [.pingreq] ∧
      ∃ due, 40000000 < due ∧
        (Move.mk (Move.mk s ⟨.service, 40000000, none⟩).after ⟨.nextService, 0, none⟩).result =
          .ok (.due (some due)) := by
  intro begins opens accepts s
  have h₁ : Networked ((new {}).moves [begins]) :=
    (networked_moves_concat (new {}) [] begins).mpr ⟨networked_nil, trivial⟩
  have h₂ : Networked ((new {}).moves [begins, opens]) :=
    (networked_moves_concat (new {}) [begins] opens).mpr
      ⟨h₁, List.mem_singleton_self 1, List.not_mem_nil, fun _ => List.not_mem_nil⟩
  have h : Networked ((new {}).moves [begins, opens, accepts]) :=
    (networked_moves_concat (new {}) [begins, opens] accepts).mpr
      ⟨h₂, List.mem_singleton_self 1, 0, List.mem_singleton_self (1, 0)⟩
  have hkeeps : (({} : ConnectOptions).autoKeepAlive = true) ∧
      ({} : ConnectOptions).keepAlive ≠ 0 := by decide
  obtain ⟨hidle, -, hafter⟩ := pings_when_idle {} [begins, opens, accepts] h
  obtain ⟨transport, w, ht, hw, hservice⟩ := hidle rfl hkeeps
  obtain rfl : 0 = transport := Option.some.inj ht
  obtain rfl : 1000000 = w := Option.some.inj hw
  obtain ⟨⟨due, hlt, hdue⟩, -⟩ := hafter 40000000 none rfl hkeeps
  exact ⟨h, (hservice 40000000 none).2.1 (by decide), due, hlt, hdue 0 none⟩

end Session
end Mqtt
