import Mqtt.Proofs.Attempts

/-!
# Transports and the keep-alive clock

A CONNECT is written as soon as a transport is installed, and whatever removes the transport resets
the monitor. So the monitor has a last write exactly while there is a transport. Where reports come
from a network, an accepted connection has one.
-/

namespace Mqtt.Session

/-- The monitor knows of a last write exactly while there is a transport, and has the interval that
was configured. -/
structure Armed (s : Session) : Prop where
  lastWrite : s.keepAlive.lastWrite.isSome = s.transport.isSome
  interval : s.keepAlive.interval = (new s.options).keepAlive.interval

namespace Armed

variable {s : Session} (h : Armed s)
include h

theorem atTime (now : Int) : Armed (s.atTime now) := ⟨h.lastWrite, h.interval⟩

theorem reset {s' : Session} (ho : s'.options = s.options) (ht : s'.transport = none)
    (hk : s'.keepAlive = s.keepAlive.reset) : Armed s' := by
  refine ⟨?_, ?_⟩
  · rw [ht, hk]
    rfl
  · rw [ho, hk]
    exact h.interval

theorem ended : Armed s.ended := h.reset rfl rfl rfl

end Armed

theorem armed_new (o : ConnectOptions) : Armed (new o) := ⟨rfl, rfl⟩

section Rules

variable {s : Session} {fault : Option Error} {input : Input} {y : Yield}

theorem Writes.keepAlive_eq {u v : Session} {packet : Packet} {events : List Event}
    {output : Output} (h : Writes s input packet u v events output) :
    u.keepAlive = s.keepAlive ∧ v.keepAlive = s.keepAlive := by
  cases h with
  | pubrec _ _ _ _ hu =>
    subst hu
    exact ⟨rfl, rfl⟩
  | _ => exact ⟨rfl, rfl⟩

theorem Transition.armed (h : Transition s fault input y) (hs : Armed s) : Armed y.session := by
  cases h with
  | @wrote _ _ u v _ _ t hw ht _ =>
    have hv : v.written.transport = some t := hw.transport_eq.trans ht
    refine ⟨?_, ?_⟩
    · rw [hv]
      rfl
    · change v.keepAlive.interval = (new v.options).keepAlive.interval
      rw [hw.keepAlive_eq.2, hw.frame.2.1]
      exact hs.interval
  | @writeFailed _ _ u _ _ _ _ hw _ =>
    refine ⟨rfl, ?_⟩
    change u.keepAlive.interval = (new u.options).keepAlive.interval
    rw [hw.keepAlive_eq.1, hw.frame.1.1]
    exact hs.interval
  | closed _ | disconnected _ => exact hs.ended
  | refused _ _ _ => exact hs.reset rfl rfl rfl
  | idle _ | discarded _ _ _ | began _ _ _ _ | failed _ _ | accepted _ _ _ | delivered _ _ _
  | completed _ _ _ _ _ _ _ | ponged _ | exhausted _ _ _ _ _ _ =>
    exact ⟨hs.lastWrite, hs.interval⟩

end Rules

theorem armed_run (o : ConnectOptions) (as : List Action) : Armed ((new o).run as) :=
  run_induction (armed_new o) (fun m hm => m.transition.armed (hm.atTime _)) as

/-! ### What an attempt in progress was given -/

/-- A transport that was handed in for the attempt in progress is installed, and a connection that
is accepted was handed one. -/
structure Supplied (s : Session) (ms : List Move) : Prop where
  installed : s.status ≠ .disconnected → ∀ t, (s.attempt, t) ∈ openings ms → s.transport = some t
  opened : s.status = .connected → ∃ t, (s.attempt, t) ∈ openings ms

namespace Supplied

variable {s v : Session} {ms : List Move} {m : Move}

theorem of_disconnected (hv : v.status = .disconnected) : Supplied v ms :=
  ⟨fun hne => absurd hv hne, fun hc => by simp [hv] at hc⟩

theorem of_same (h : Supplied s ms) (hi : m.action.input.opening? = none)
    (ht : v.transport = s.transport) (ha : v.attempt = s.attempt) (hv : v.status = s.status) :
    Supplied v (ms ++ [m]) := by
  have ho : openings (ms ++ [m]) = openings ms := by rw [openings_concat, hi]; simp
  refine ⟨?_, ?_⟩
  · rw [ho, ha, hv, ht]
    exact h.installed
  · rw [ho, ha, hv]
    exact h.opened

theorem of_new {t : TransportId} (hi : m.action.input = .report s.attempt (.opened t))
    (hp : m.action.input.Possible ms) (hv : v.transport = some t) (ha : v.attempt = s.attempt)
    (hs : v.status ≠ .connected) : Supplied v (ms ++ [m]) := by
  refine ⟨?_, fun hc => absurd hc hs⟩
  intro _ t' ht'
  rw [openings_concat, ha, hi, List.mem_append] at ht'
  rw [hi] at hp
  rcases ht' with ht' | ht'
  · exact absurd (mem_dialed_of_mem_openings ht') hp.2.1
  · cases List.mem_singleton.mp ht'
    exact hv

theorem of_discarded (h : Supplied s ms) {k : Nat} {t : TransportId}
    (hi : m.action.input = .report k (.opened t)) (hp : m.action.input.Possible ms)
    (hk : k ≠ s.attempt ∨ s.status ≠ .connecting) (hs : s.status ≠ .disconnecting) :
    Supplied s (ms ++ [m]) := by
  rw [hi] at hp
  have hother : s.status ≠ .disconnected → k ≠ s.attempt := by
    rintro hne rfl
    rcases hk with hk | hk
    · exact hk rfl
    · have hc : s.status = .connected := by
        cases hst : s.status with
        | connected => rfl
        | disconnected => exact absurd hst hne
        | connecting => exact absurd hst hk
        | disconnecting => exact absurd hst hs
      obtain ⟨t', ht'⟩ := h.opened hc
      exact hp.2.1 (mem_dialed_of_mem_openings ht')
  refine ⟨?_, ?_⟩
  · intro hne t' ht'
    rw [openings_concat, hi, List.mem_append] at ht'
    rcases ht' with ht' | ht'
    · exact h.installed hne t' ht'
    · cases List.mem_singleton.mp ht'
      exact absurd rfl (hother hne)
  · intro hc
    obtain ⟨t', ht'⟩ := h.opened hc
    exact ⟨t', by rw [openings_concat]; exact List.mem_append_left _ ht'⟩

theorem step (h : Supplied m.start ms) (hs : m.start.status ≠ .disconnecting)
    (hfresh : ∀ t, (m.start.attempt + 1, t) ∉ openings ms) (hp : m.action.input.Possible ms) :
    Supplied m.after (ms ++ [m]) := by
  have ht := m.transition
  generalize hi : m.action.input = input at ht
  generalize hy : Yield.mk m.result m.after m.events m.io = y at ht
  have hv : m.after = y.session := congrArg Yield.session hy
  rw [hv]
  cases ht with
  | idle hidle =>
    have hn : m.action.input.opening? = none := by rw [hi]; exact hidle.opening?_eq_none
    exact h.of_same hn rfl rfl rfl
  | @wrote _ _ u v _ _ t hw ht _ =>
    obtain ⟨-, -, hst, ha⟩ := hw.frame
    rcases hw.connect_or_talk with ⟨t', rfl, hc, -, rfl⟩ | ⟨hn, -, -, hu⟩
    · exact of_new hi hp (hw.transport_eq.trans rfl) ha (by simp [written, hst, hc])
    · rw [← hi] at hn
      exact h.of_same hn (hw.transport_eq.trans hu) ha hst
  | discarded k t hk => exact h.of_discarded hi hp hk hs
  | began generated hst _ _ =>
    have hn : m.action.input.opening? = none := by rw [hi]; rfl
    have ho : openings (ms ++ [m]) = openings ms := by rw [openings_concat, hn]; simp
    -- No transport can have been handed in for an attempt that only begins.
    refine ⟨?_, fun hc => by cases hc⟩
    rw [ho]
    exact fun _ t ht => absurd ht (hfresh t)
  | accepted connack hst _ =>
    have hn : m.action.input.opening? = none := by rw [hi]; rfl
    have ho : openings (ms ++ [m]) = openings ms := by rw [openings_concat, hn]; simp
    rw [hi] at hp
    refine ⟨?_, ?_⟩
    · rw [ho]
      exact fun _ => h.installed (by simp [hst])
    · rw [ho]
      exact fun _ => hp.2
  | delivered _ _ _ | completed _ _ _ _ _ _ _ | ponged _ | exhausted _ _ _ _ _ _ =>
    have hn : m.action.input.opening? = none := by rw [hi]; rfl
    exact h.of_same hn rfl rfl rfl
  | writeFailed _ _ | failed _ _ | closed _ | refused _ _ _ | disconnected _ =>
    exact of_disconnected rfl

end Supplied

theorem supplied_run (o : ConnectOptions) (as : List Action) (h : Networked ((new o).moves as)) :
    Supplied ((new o).run as) ((new o).moves as) := by
  induction as using List.reverseRecOn with
  | nil => exact .of_disconnected rfl
  | append_singleton as a ih =>
    rw [moves_concat] at h ⊢
    rw [run_concat]
    obtain ⟨hms, hp⟩ := networked_concat.mp h
    have hs : Supplied (Move.mk ((new o).run as) a).start ((new o).moves as) :=
      ⟨(ih hms).installed, (ih hms).opened⟩
    apply hs.step (status_ne_disconnecting o as) ?_ hp
    intro t ht
    have hbegun := hms.begun_of_dialed (mem_dialed_of_mem_openings ht)
    have hle := (mem_begun_run hbegun).2
    exact absurd hle (Nat.not_succ_le_self _)

/-- Where reports come from a network, an accepted connection has a transport. -/
theorem transport_of_connected (o : ConnectOptions) (as : List Action)
    (h : Networked ((new o).moves as)) (hs : ((new o).run as).status = .connected) :
    ((new o).run as).transport.isSome := by
  have hsup := supplied_run o as h
  obtain ⟨t, ht⟩ := hsup.opened hs
  rw [hsup.installed (by simp [hs]) t ht]
  rfl

end Mqtt.Session
