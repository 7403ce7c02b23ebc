import Mqtt.Proofs.Attempts
import Mqtt.Proofs.Bookkeeping
import Mqtt.Proofs.Inert

/-!
# Connections that the application ends

A disconnect call ends a connection, or an attempt at one, whatever becomes of the farewell that is
written to the server. The application is told what is given up, and that an attempt has failed; it
is not told that the connection has closed, for that is what it asked for. From then on the attempt
is over, and an attempt that is over never comes back: whatever its transport still has to report,
nothing happens.
-/

namespace Mqtt.Session

/-! ### Attempts that are over -/

def IsOver (s : Session) (k : Nat) : Prop := k ≤ s.attempt ∧ s.isCurrent k = false

section Rules

variable {s : Session} {fault : Option Error} {input : Input} {y : Yield}

theorem Transition.status_of_disconnected (h : Transition s fault input y)
    (hs : s.status = .disconnected) (ha : y.session.attempt = s.attempt) :
    y.session.status = .disconnected := by
  cases h with
  | idle _ | discarded _ _ _ | delivered _ _ _ | completed _ _ _ _ _ _ _ | ponged _
  | exhausted _ _ _ _ _ _ => exact hs
  | wrote hw _ _ => exact absurd hs hw.status_ne
  | began _ _ _ _ => exact absurd ha (Nat.succ_ne_self s.attempt)
  | accepted _ hst _ => simp [hs] at hst
  | writeFailed _ _ | failed _ _ | closed _ | refused _ _ _ | disconnected _ => rfl

theorem Transition.isOver (h : Transition s fault input y) {k : Nat} (hk : s.IsOver k) :
    y.session.IsOver k := by
  obtain ⟨hle, hcurrent⟩ := hk
  rw [isCurrent_eq_false_iff] at hcurrent
  rw [IsOver, isCurrent_eq_false_iff]
  rcases h.attempt_eq_or with ⟨ha, -⟩ | ⟨-, -, -, ha⟩
  · rw [ha]
    exact ⟨hle, fun hlatest => h.status_of_disconnected (hcurrent hlatest) ha⟩
  · rw [ha]
    exact ⟨Nat.le_succ_of_le hle, fun hlatest => by omega⟩

/-- Where there is something to end, a disconnect call follows one rule only. -/
theorem Transition.of_disconnect (h : Transition s fault (.request .disconnect) y)
    (hs : s.status = .connected ∨ s.status = .connecting) :
    y = ⟨.ok (.packetId none), s.ended,
      s.abandoned ++ (if s.status = .connecting then
        [.connectionFailure .cancelledByDisconnect] else []),
      s.goodbye fault ++ s.closing⟩ := by
  cases h with
  | idle hi =>
    cases hi with
    | rejected _ _ hc => cases hc
    | notConnected _ _ hd _ => exact absurd rfl hd
    | nothingToDisconnect h₁ h₂ => exact absurd hs (not_or.mpr ⟨h₁, h₂⟩)
  | wrote hw _ _ | writeFailed hw _ => cases hw
  | exhausted _ _ _ hr _ _ => cases hr
  | disconnected _ => rfl

end Rules

theorem isOver_run {s : Session} {k : Nat} (h : s.IsOver k) (as : List Action) :
    (s.run as).IsOver k := by
  refine run_induction (P := fun s => s.IsOver k) h (fun m hm => ?_) as
  have hstart : m.start.IsOver k := hm
  exact m.transition.isOver hstart

theorem Move.isDead_of_isOver {m : Move} {k : Nat} {report : Report} (hk : m.before.IsOver k)
    (hi : m.action.input = .report k report) : m.isDead := by
  rw [Move.isDead, hi]
  simp [hk.2]

/-! ### Disconnecting -/

/-- The end of a connection, or of an attempt at one, that the application has asked for. -/
structure Move.SignedOff (m : Move) : Prop where
  result : m.result = .ok (.packetId none)
  status : m.after.status = .disconnected
  transport : m.after.transport = none
  isBound : ∀ id, m.after.ids.isBound id = false
  pendingCount : m.after.inflight.pendingCount = 0
  lastWrite : m.after.keepAlive.lastWrite = none
  nextPing : m.after.keepAlive.nextPing = none
  /-- The transport is closed once, after the farewell. -/
  io : m.io = match m.before.transport with
    | none => []
    | some t =>
      [if m.action.fault.isSome then .refused t .disconnect else .wrote t .disconnect, .closed t]
  /-- What was pending is given up, in order, and then an attempt has failed. -/
  events : ∃ operations : List Abandoned,
    m.events = operations.map .operationAbandoned ++
      (if m.before.status = .connecting then
        [.connectionFailure
          (.connectionClosed (.text "connection attempt cancelled by disconnect"))]
      else []) ∧
    operations.Pairwise (fun a b => a.packetId < b.packetId) ∧
    ∀ operation, operation ∈ operations ↔ operation ∈ m.before.inflight.pending
  untold : .connectionClosed ∉ m.events

section Disconnect

variable {m : Move} (hi : m.action.input = .request .disconnect)
  (hs : m.before.status = .connected ∨ m.before.status = .connecting)
include hi hs

theorem Move.of_disconnect : Yield.mk m.result m.after m.events m.io =
    ⟨.ok (.packetId none), m.start.ended,
      m.start.abandoned ++ (if m.start.status = .connecting then
        [.connectionFailure .cancelledByDisconnect] else []),
      m.start.goodbye m.action.fault ++ m.start.closing⟩ :=
  (m.transition_of hi).of_disconnect hs

theorem Move.signedOff (hm : Bookkeeping m.before) : m.SignedOff := by
  obtain ⟨hr, ha, hevents, hio⟩ := Yield.mk.inj (Move.of_disconnect hi hs)
  refine ⟨hr, ?status, ?transport, ?isBound, ?pendingCount, ?lastWrite, ?nextPing, ?io, ?events,
    ?untold⟩
  case status => rw [ha]; rfl
  case transport => rw [ha]; rfl
  case isBound => rw [ha]; exact PacketIds.isBound_releaseAll m.before.ids
  case pendingCount => rw [ha]; exact m.start.pendingCount_remains
  case lastWrite => rw [ha]; rfl
  case nextPing => rw [ha]; exact m.before.keepAlive.nextPing_reset
  case io =>
    have ht : m.start.transport = m.before.transport := rfl
    rw [hio, goodbye, closing, ht]
    cases m.before.transport <;> rfl
  case events =>
    refine ⟨m.before.inflight.abandon.1, hevents, hm.orderly.pairwise_abandon, fun operation => ?_⟩
    exact m.before.inflight.perm_abandon.mem_iff
  case untold =>
    rw [hevents, List.mem_append, not_or]
    constructor
    · intro hin
      obtain ⟨_, heq⟩ := m.start.mem_abandoned hin
      cases heq
    · split <;> simp

theorem Move.isOver_of_disconnect : m.after.IsOver m.before.attempt := by
  obtain ⟨-, ha, -⟩ := Yield.mk.inj (Move.of_disconnect hi hs)
  rw [ha, IsOver, isCurrent_eq_false_iff]
  exact ⟨Nat.le_refl m.before.attempt, fun _ => rfl⟩

end Disconnect

/-- After every run that has led to a connection or an attempt at one, a disconnect call succeeds,
and leaves nothing of it: what was pending is given up, and an attempt fails. What the transport
answers to the farewell makes no difference to the session, the result and the events. Whatever is
done next, and whatever is then still reported on the connection, the report changes nothing but the
clock, brings no event, and at most closes the transport that it carries. -/
theorem disconnect_is_final (o : ConnectOptions) (as : List Action) (now : Int)
    (fault : Option Error)
    (hs : ((new o).run as).status = .connected ∨ ((new o).run as).status = .connecting) :
    let s := (new o).run as
    let m : Move := ⟨s, .request .disconnect, now, fault⟩
    m.SignedOff ∧
    (∀ fault', let m' : Move := ⟨s, .request .disconnect, now, fault'⟩
      m'.after = m.after ∧ m'.result = m.result ∧ m'.events = m.events) ∧
    ∀ bs, ∀ n ∈ m.after.moves bs, ∀ report, n.action.input = .report s.attempt report →
      n.after = n.start ∧ n.events = [] ∧ ∀ x ∈ n.io, x.isClose := by
  intro s m
  refine ⟨Move.signedOff rfl hs (bookkeeping_run o as), ?_, ?_⟩
  · intro fault' m'
    obtain ⟨hr, ha, hevents, -⟩ := Yield.mk.inj (Move.of_disconnect (m := m) rfl hs)
    obtain ⟨hr', ha', hevents', -⟩ := Yield.mk.inj (Move.of_disconnect (m := m') rfl hs)
    exact ⟨ha'.trans ha.symm, hr'.trans hr.symm, hevents'.trans hevents.symm⟩
  · intro bs n hn report hi
    obtain ⟨cs, -, -, hb⟩ := of_mem_moves hn
    have hover : n.before.IsOver s.attempt := by
      rw [hb]
      exact isOver_run (Move.isOver_of_disconnect (m := m) rfl hs) cs
    exact Move.of_dead (Move.isDead_of_isOver hover hi)

/-- A connection with operations that wait, whose transport does not take the farewell. -/
theorem disconnect_is_final_unwritten :
    let as : List Action :=
      [⟨.startConnect "", 0, none⟩, ⟨.report 1 (.opened 0), 0, none⟩,
        ⟨.report 1 (.received (.connack ⟨false, .accepted⟩)), 0, none⟩,
        ⟨.request (.subscribe ⟨0, [⟨"a", .atMostOnce⟩]⟩), 0, none⟩,
        ⟨.request (.publish ⟨0, "a", .atLeastOnce, false, false, .empty⟩), 0, none⟩]
    let m : Move :=
      ⟨(new {}).run as, .request .disconnect, 0, some (.transport (.text "broken pipe"))⟩
    let written : Move := ⟨(new {}).run as, .request .disconnect, 0, none⟩
    m.before.inflight.pendingCount = 2 ∧ m.SignedOff ∧ m.events = written.events ∧
      ∀ n ∈ m.after.moves [⟨.report 1 .closed, 0, none⟩], n.events = [] := by
  intro as m written
  have hpending : m.before.inflight.pendingCount = 2 := by
    simp only [m, as]
    decide +kernel
  obtain ⟨hsigned, hblind, hdeaf⟩ :=
    disconnect_is_final {} as 0 (some (.transport (.text "broken pipe"))) (.inl rfl)
  refine ⟨hpending, hsigned, (hblind none).2.2.symm, fun n hn => ?_⟩
  have hi : n.action.input = .report 1 .closed := by
    rw [moves_cons, moves_nil, List.mem_singleton] at hn
    rw [hn]
  exact (hdeaf _ n hn .closed hi).2.1

example :
    let m : Move := ⟨(new {}).run [⟨.startConnect "", 0, none⟩], .request .disconnect, 0, none⟩
    m.events = [.connectionFailure .cancelledByDisconnect] ∧ m.io = [] := by
  decide +kernel

end Mqtt.Session
