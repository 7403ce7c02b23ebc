import Mqtt.Proofs.Custody

/-!
# What is held

Every rule keeps `Holding`. From it come what a clearing leaves, which is nothing, and what a
release delivers, which is what is held under its identifier and nothing else.
-/

namespace Mqtt.Session

namespace Holding

variable {s : Session} (h : Holding s)
include h

theorem congr {s' : Session} (hheld : s'.inflight.held = s.inflight.held)
    (ho : s'.options = s.options) (hst : s'.status ≠ .connected → s.status ≠ .connected) :
    Holding s' := by
  constructor
  · rw [hheld]
    exact h.held
  · rw [ho, hheld]
    intro hc hne
    exact h.offline hc (hst hne)

theorem atTime (now : Int) : Holding (s.atTime now) := h.congr rfl rfl id

theorem hold {message : Publish} (hst : s.status = .connected) (hq : message.qos = .exactlyOnce) :
    Holding { s with inflight := (s.inflight.hold message).getD s.inflight } := by
  refine ⟨?_, fun _ hne => absurd hst hne⟩
  intro id other hl
  change ((s.inflight.hold message).getD s.inflight).held[id]? = some other at hl
  rw [Inflight.held_hold, Option.or_eq_some_iff] at hl
  rcases hl with hl | ⟨-, hl⟩
  · exact h.held id other hl
  · split_ifs at hl with hid
    cases hl
    exact ⟨hq, hid⟩

theorem unhold {id : UInt16} {message : Publish} {f : Inflight} (hst : s.status = .connected)
    (hr : s.inflight.unhold id = some (message, f)) : Holding { s with inflight := f } := by
  obtain ⟨-, rfl⟩ := Inflight.unhold_some hr
  refine ⟨?_, fun _ hne => absurd hst hne⟩
  intro a other hl
  change (s.inflight.held.erase id)[a]? = some other at hl
  rw [Std.ExtTreeMap.getElem?_erase] at hl
  split_ifs at hl
  exact h.held a other hl

end Holding

theorem holding_of_empty {s : Session} (h : s.inflight.held = ∅) : Holding s := by
  refine ⟨?_, fun _ _ => h⟩
  intro id message hl
  simp [h] at hl

theorem Holding.ended {s : Session} (h : Holding s) : Holding s.ended := by
  by_cases hc : s.options.cleanSession
  · apply holding_of_empty
    simp [Session.ended, remains, hc]
  · have hc' : s.options.cleanSession = false := by simpa using hc
    exact ⟨by rw [held_ended s hc']; exact h.held, fun hclean => absurd hclean hc⟩

section Rules

variable {s u v : Session} {fault : Option Error} {input : Input} {packet : Packet}
  {events : List Event} {output : Output} {y : Yield}

theorem Writes.holding_prepared (h : Writes s input packet u v events output) (hs : Holding s) :
    Holding u := by
  cases h with
  | connect transport hst =>
    by_cases hc : s.options.cleanSession
    · apply holding_of_empty
      simp [install, hc, Inflight.dropHeld]
    · exact hs.congr (by simp [install, hc]) rfl id
  | pubrec message hst hq u hu =>
    subst hu
    exact hs.hold hst hq
  | pubrel _ f hst hr => exact hs.congr (Inflight.onPubrec_held hr) rfl id
  | puback _ _ _ | pubcompOnly _ _ _ | pubcomp _ _ _ _ _ | publishOnce _ _ _ _ _ _ _
  | publish _ _ _ _ _ _ _ | subscribe _ _ _ _ _ _ | unsubscribe _ _ _ _ _ _ | ping _
  | keepAlive _ _ => exact hs.congr rfl rfl id

theorem Writes.holding (h : Writes s input packet u v events output) (hs : Holding s) :
    Holding v := by
  have hu := h.holding_prepared hs
  cases h with
  | pubcomp id message f hst hr => exact hs.unhold hst hr
  | connect _ _ | puback _ _ _ | pubrec _ _ _ _ _ | pubrel _ _ _ _ | pubcompOnly _ _ _
  | publishOnce _ _ _ _ _ _ _ | publish _ _ _ _ _ _ _ | subscribe _ _ _ _ _ _
  | unsubscribe _ _ _ _ _ _ | ping _ | keepAlive _ _ => exact hu.congr rfl rfl id

theorem Transition.holding (h : Transition s fault input y) (hs : Holding s) :
    Holding y.session := by
  cases h with
  | wrote hw _ _ => exact (hw.holding hs).congr rfl rfl id
  | writeFailed hw _ => exact (hw.holding_prepared hs).ended
  | closed _ => exact hs.ended
  | disconnected _ => exact hs.ended
  | began _ hst _ _ => exact hs.congr rfl rfl fun _ => by simp [hst]
  | failed _ hst => exact hs.congr rfl rfl fun _ => by simp [hst]
  | accepted _ _ _ => exact hs.congr rfl rfl fun hne => absurd rfl hne
  | refused _ hst _ => exact hs.congr rfl rfl fun _ => by simp [hst]
  | completed _ _ _ _ _ _ ha => exact hs.congr (Inflight.onAck_held ha) rfl id
  | idle _ | discarded _ _ _ | delivered _ _ _ | ponged _ | exhausted _ _ _ _ _ _ =>
    exact hs.congr rfl rfl id

theorem Transition.not_connected_of_opened {attempt : Nat} {transport : TransportId}
    (h : Transition s fault (.report attempt (.opened transport)) y)
    (hst : s.status = .connecting) : y.session.status ≠ .connected := by
  cases h with
  | idle hi =>
    cases hi with
    | staleReport _ _ _ hr => exact absurd rfl (hr transport)
  | wrote hw _ _ =>
    simp only [written]
    rw [hw.frame.2.2.1, hst]
    decide
  | writeFailed _ _ =>
    change Status.disconnected ≠ .connected
    decide
  | discarded _ _ _ =>
    rw [hst]
    decide

/-- Nothing is held once held messages have been cleared: whatever clears them leaves the session
without an accepted connection. -/
theorem Transition.cleared (h : Transition s fault input y) (hs : Holding s)
    (hc : s.clears input y.session = true) : y.session.inflight.held = ∅ := by
  rw [clears, Bool.and_eq_true, Bool.or_eq_true] at hc
  obtain ⟨hclean, hc⟩ := hc
  have hclean' : y.session.options.cleanSession := by
    rw [h.options_eq]
    exact hclean
  apply (h.holding hs).offline hclean'
  rcases hc with hi | hd
  · unfold installs at hi
    split at hi
    · have hst : s.status = .connecting := by
        rw [Bool.and_eq_true] at hi
        simpa using hi.2
      exact h.not_connected_of_opened hst
    · cases hi
  · rw [Bool.and_eq_true] at hd
    have hd' : y.session.status = .disconnected := by simpa using hd.2
    rw [hd']
    decide

/-- A message of the highest level is delivered only at its release, once that is acknowledged. -/
theorem Transition.accepts?_of_released (h : Transition s fault input y) (hs : Holding s)
    {message : Publish} (hm : message ∈ y.events.filterMap Event.released?) :
    s.accepts? input = some (.pubrel message.packetId) ∧
      ∃ transport, y.io = [.wrote transport (.pubcomp message.packetId)] := by
  cases h with
  | @wrote _ _ _ _ _ _ transport hw _ _ =>
    cases hw with
    | pubcomp id held f hst hr =>
      obtain ⟨hl, rfl⟩ := Inflight.unhold_some hr
      obtain ⟨hq, rfl⟩ := hs.held id held hl
      have he : held = message := by
        simpa [Event.released?, hq, eq_comm] using hm
      subst he
      exact ⟨accepts?_received _ hst, transport, rfl⟩
    | puback other hst hq => simp [Event.released?, hq] at hm
    | connect _ _ | pubrec _ _ _ _ _ | pubrel _ _ _ _ | pubcompOnly _ _ _ | ping _
    | keepAlive _ _ | publishOnce _ _ _ _ _ _ _ | publish _ _ _ _ _ _ _ | subscribe _ _ _ _ _ _
    | unsubscribe _ _ _ _ _ _ => cases hm
  | writeFailed _ _ =>
    dsimp only at hm
    rw [released_farewell] at hm
    cases hm
  | closed _ =>
    dsimp only at hm
    rw [released_farewell] at hm
    cases hm
  | disconnected _ =>
    dsimp only at hm
    rw [List.filterMap_append, released_abandoned, List.nil_append] at hm
    split_ifs at hm
    · cases hm
    · cases hm
  | delivered other _ hq => simp [Event.released?, hq] at hm
  | completed packet _ event _ _ hp _ =>
    cases packet <;> cases hp <;> cases hm
  | idle _ | discarded _ _ _ | began _ _ _ _ | failed _ _ | accepted _ _ _ | refused _ _ _
  | ponged _ | exhausted _ _ _ _ _ _ => cases hm

theorem Transition.answered {id : UInt16}
    (h : Transition s fault (.report s.attempt (.received (.pubrel id))) y) (hs : Holding s)
    (hst : s.status = .connected) :
    (∃ transport, s.transport = some transport ∧ fault = none ∧ y.result = .ok .done ∧
      y.io = [.wrote transport (.pubcomp id)] ∧
      y.events.filterMap Event.released? = s.inflight.held[id]?.toList) ∨
    ∃ e, s.writeError fault = some e ∧ y.result = .error e ∧ y.io = s.lastWords (.pubcomp id) ∧
      y.events.filterMap Event.released? = [] := by
  cases h with
  | @wrote _ _ _ _ _ _ transport hw ht hf =>
    refine .inl ⟨transport, ?_⟩
    cases hw with
    | pubcompOnly _ _ hr =>
      refine ⟨ht, hf, rfl, rfl, ?_⟩
      rw [Inflight.unhold_none hr]
      rfl
    | pubcomp _ message f _ hr =>
      obtain ⟨hl, rfl⟩ := Inflight.unhold_some hr
      refine ⟨ht, hf, rfl, rfl, ?_⟩
      simp [Event.released?, (hs.held id message hl).1, hl]
  | @writeFailed _ _ _ _ _ _ e hw he =>
    refine .inr ⟨e, ?_⟩
    cases hw with
    | pubcompOnly _ _ _ => exact ⟨he, rfl, rfl, released_farewell s e⟩
    | pubcomp _ _ _ _ _ => exact ⟨he, rfl, rfl, released_farewell s e⟩
  | idle hi =>
    cases hi with
    | staleReport _ _ ha _ => exact absurd rfl ha
    | outOfPlace _ _ hne => exact absurd hst hne
    | neverFromServer _ hp => cases hp
    | nothingPending _ _ hp _ => cases hp
  | completed _ _ _ _ _ hp _ => cases hp

theorem Transition.same_attempt (h : Transition s fault input y) (hst : s.status = .connected)
    (hd : y.session.status ≠ .disconnected) :
    y.session.status = .connected ∧ y.session.attempt = s.attempt := by
  cases h with
  | wrote hw _ _ =>
    obtain ⟨-, -, hv, ha⟩ := hw.frame
    exact ⟨hv.trans hst, ha⟩
  | began _ hne _ _ =>
    rw [hst] at hne
    cases hne
  | accepted _ hne _ =>
    rw [hst] at hne
    cases hne
  | writeFailed _ _ | failed _ _ | closed _ | refused _ _ _ | disconnected _ => exact absurd rfl hd
  | idle _ | discarded _ _ _ | delivered _ _ _ | completed _ _ _ _ _ _ _ | ponged _
  | exhausted _ _ _ _ _ _ => exact ⟨hst, rfl⟩

end Rules

end Mqtt.Session
