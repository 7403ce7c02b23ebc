import Mqtt.Proofs.Network
import Mqtt.Simulation.Traffic

/-!
# The discipline of a transport

What a transport sees from the moment that it is opened. An open one has taken a CONNECT, and after
that only what belongs into an accepted connection; one that is over has been closed once, right
after a write that failed, after a DISCONNECT, or without either. As long as reports come from a
network, a session keeps to this with every transport that it is given.
-/

namespace Mqtt

/-- Packets that a client sends on an accepted connection, until it leaves. -/
def Packet.isTalk : Packet → Bool
  | publish _ | subscribe _ | unsubscribe _ | pingreq | puback _ | pubrec _ | pubrel _
  | pubcomp _ => true
  | connect _ | connack _ | suback _ | unsuback _ | pingresp | disconnect => false

/-- What an open transport has seen. -/
inductive Io.Open (transport : TransportId) : List Io → Prop
  | connect (packet : Connect) : Open transport [.wrote transport (.connect packet)]
  | talk {w : List Io} {packet : Packet} (h : Open transport w) (hp : packet.isTalk) :
    Open transport (w ++ [.wrote transport packet])

/-- The last writes to a transport before it is closed. -/
inductive Io.Parting (transport : TransportId) : List Io → Prop
  | silent : Parting transport []
  | failed (packet : Packet) : Parting transport [.refused transport packet]
  | left : Parting transport [.wrote transport .disconnect]

theorem Io.Parting.own {t : TransportId} {last : List Io} (h : Io.Parting t last) :
    ∀ x ∈ last ++ [.closed t], x.transport = t := by
  cases h <;> simp [Io.transport]

/-- What a transport has seen that is over. -/
inductive Io.Over (transport : TransportId) : List Io → Prop
  | unused : Over transport [.closed transport]
  | unheard (packet : Connect) :
    Over transport [.refused transport (.connect packet), .closed transport]
  | ended {w last : List Io} (h : Open transport w) (hl : Parting transport last) :
    Over transport (w ++ (last ++ [.closed transport]))

/-! ### What there is to see of a transport -/

namespace Io

variable {t : TransportId} {w : List Io}

theorem Open.eq_map (h : Open t w) : ∃ packet talk, (∀ p ∈ talk, Packet.isTalk p) ∧
    w = (.connect packet :: talk).map (.wrote t) := by
  induction h with
  | connect packet => exact ⟨packet, [], nofun, rfl⟩
  | @talk w p _ hp ih =>
    obtain ⟨packet, talk, htalk, rfl⟩ := ih
    refine ⟨packet, talk ++ [p], ?_, by simp⟩
    intro q hq
    rcases List.mem_append.mp hq with hq | hq
    · exact htalk q hq
    · cases List.mem_singleton.mp hq
      exact hp

theorem Open.written (h : Open t w) : ∃ packet talk, (∀ p ∈ talk, Packet.isTalk p) ∧
    w.filterMap packet? = .connect packet :: talk := by
  obtain ⟨packet, talk, htalk, rfl⟩ := h.eq_map
  refine ⟨packet, talk, htalk, ?_⟩
  simp [List.filterMap_map, Function.comp_def, packet?]

theorem Open.isSome_packet? (h : Open t w) : ∀ x ∈ w, x.packet?.isSome := by
  obtain ⟨packet, talk, -, rfl⟩ := h.eq_map
  intro x hx
  obtain ⟨p, -, rfl⟩ := List.mem_map.mp hx
  rfl

theorem Open.closes (h : Open t w) : w.countP isClose = 0 := by
  obtain ⟨packet, talk, -, rfl⟩ := h.eq_map
  rw [List.countP_eq_zero]
  intro x hx
  obtain ⟨p, -, rfl⟩ := List.mem_map.mp hx
  simp [isClose]

theorem Over.closes (h : Over t w) : w.countP isClose = 1 := by
  cases h with
  | unused => rfl
  | unheard _ => rfl
  | ended ho hl =>
    rw [List.countP_append, ho.closes]
    cases hl <;> rfl

theorem Over.written (h : Over t w) : ∃ packet talk, (∀ p ∈ talk, Packet.isTalk p) ∧
    w.filterMap packet? <+: .connect packet :: (talk ++ [.disconnect]) := by
  cases h with
  | unused => exact ⟨⟨true, 0, "", none, none, none⟩, [], nofun, List.nil_prefix⟩
  | unheard packet => exact ⟨packet, [], nofun, List.nil_prefix⟩
  | ended ho hl =>
    obtain ⟨packet, talk, htalk, hw⟩ := ho.written
    refine ⟨packet, talk, htalk, ?_⟩
    rw [List.filterMap_append, hw]
    cases hl <;> simp [List.filterMap, packet?]

/-- After a write that failed, or a close, nothing is written. -/
def Quits (w : List Io) : Prop := w.Pairwise fun x x' => x.packet? = none → x'.attempted? = none

theorem Open.quits (h : Open t w) : Quits w := by
  induction h with
  | connect packet => exact List.pairwise_singleton _ _
  | talk ho _ ih =>
    refine List.pairwise_append.mpr ⟨ih, List.pairwise_singleton _ _, ?_⟩
    intro x hx _ _ hn
    have hsome := ho.isSome_packet? x hx
    rw [hn] at hsome
    cases hsome

theorem Over.quits (h : Over t w) : Quits w := by
  cases h with
  | unused => simp [Quits]
  | unheard _ => simp [Quits, attempted?]
  | ended ho hl =>
    refine List.pairwise_append.mpr ⟨ho.quits, ?_, ?_⟩
    · cases hl <;> simp [attempted?, packet?]
    · intro x hx _ _ hn
      have hsome := ho.isSome_packet? x hx
      rw [hn] at hsome
      cases hsome

end Io

namespace Session

/-- How an operation treats transports: it leaves the installed one alone, writes to it, or drops
it; and one that is handed in is installed, found not to work, or turned away. -/
inductive Handles (s : Session) : Input → Session → List Io → Prop
  | left {input : Input} {v : Session} (hi : input.opening? = none)
      (ht : v.transport = s.transport)
      (hv : s.transport.isSome → v.attempt = s.attempt ∧ v.status ≠ .disconnected) :
    Handles s input v []
  | talked {input : Input} {v : Session} {transport : TransportId} {packet : Packet}
      (hi : input.opening? = none) (hs : s.status = .connected)
      (ht : s.transport = some transport) (hp : packet.isTalk) (ht' : v.transport = some transport)
      (ha : v.attempt = s.attempt) (hv : v.status = .connected) :
    Handles s input v [.wrote transport packet]
  | dropped {input : Input} {v : Session} {transport : TransportId} {last : List Io}
      (hi : input.opening? = none) (ht : s.transport = some transport)
      (hl : Io.Parting transport last) (hv : v.transport = none) :
    Handles s input v (last ++ [.closed transport])
  | installed {v : Session} {transport : TransportId} (packet : Connect)
      (hs : s.status = .connecting) (ht : v.transport = some transport)
      (ha : v.attempt = s.attempt) (hv : v.status = .connecting) :
    Handles s (.report s.attempt (.opened transport)) v [.wrote transport (.connect packet)]
  | unheard {v : Session} {transport : TransportId} (packet : Connect) (hv : v.transport = none) :
    Handles s (.report s.attempt (.opened transport)) v
      [.refused transport (.connect packet), .closed transport]
  | discarded (attempt : Nat) (transport : TransportId) :
    Handles s (.report attempt (.opened transport)) s [.closed transport]

section Rules

variable {s : Session} {fault : Option Error} {input : Input} {y : Yield}

theorem Writes.connect_or_talk {u v : Session} {packet : Packet} {events : List Event}
    {output : Output} (h : Writes s input packet u v events output) :
    (∃ transport, input = .report s.attempt (.opened transport) ∧ s.status = .connecting ∧
      packet = .connect (s.options.connectPacket s.clientId) ∧ u = s.install transport) ∨
    input.opening? = none ∧ s.status = .connected ∧ packet.isTalk ∧
      u.transport = s.transport := by
  cases h with
  | connect transport hs => exact .inl ⟨transport, rfl, hs, rfl, rfl⟩
  | pubrec _ hs _ _ hu =>
    subst hu
    exact .inr ⟨rfl, hs, rfl, rfl⟩
  | puback _ hs _ | pubrel _ _ hs _ | pubcompOnly _ hs _ | pubcomp _ _ _ hs _
  | publishOnce _ _ _ _ hs _ _ | publish _ _ _ _ hs _ _ | subscribe _ _ _ _ hs _
  | unsubscribe _ _ _ _ hs _ | ping hs | keepAlive hs _ => exact .inr ⟨rfl, hs, rfl, rfl⟩

theorem Handles.of_closing {v : Session} {last : List Io} (hi : input.opening? = none)
    (hl : ∀ transport, s.transport = some transport → Io.Parting transport last)
    (hn : s.transport = none → last = []) (hv : v.transport = none) :
    Handles s input v (last ++ s.closing) := by
  cases ht : s.transport with
  | none =>
    rw [hn ht, closing, ht]
    exact .left hi (hv.trans ht.symm) (by simp [ht])
  | some transport =>
    rw [closing, ht]
    exact .dropped hi ht (hl transport ht) hv

theorem Idle.opening?_eq_none {result : Except Error Output} (h : Idle s input result) :
    input.opening? = none := by
  cases h with
  | staleReport _ report _ hr =>
    cases report with
    | opened transport => exact absurd rfl (hr transport)
    | failed _ | received _ | closed => rfl
  | _ => rfl

theorem Transition.handles (h : Transition s fault input y)
    (hi : s.transport.isSome → s.status ≠ .disconnected)
    (hf : ∀ e, input = .report s.attempt (.failed e) → s.transport = none) :
    Handles s input y.session y.io := by
  cases h with
  | idle h => exact .left h.opening?_eq_none rfl fun ht => ⟨rfl, hi ht⟩
  | @wrote _ _ u v _ _ transport hw ht _ =>
    obtain ⟨-, -, hst, ha⟩ := hw.frame
    have hv : v.transport = some transport := hw.transport_eq.trans ht
    rcases hw.connect_or_talk with ⟨transport', rfl, hs, rfl, rfl⟩ | ⟨ho, hs, hp, hu⟩
    · obtain rfl : transport' = transport := Option.some.inj ht
      exact .installed _ hs hv ha (hst.trans hs)
    · exact .talked ho hs (hu ▸ ht) hp hv ha (hst.trans hs)
  | @writeFailed _ packet u _ _ _ e hw he =>
    rcases hw.connect_or_talk with ⟨transport, rfl, hs, rfl, rfl⟩ | ⟨ho, hs, hp, hu⟩
    · exact .unheard _ rfl
    · have hlast : u.lastWords packet =
          s.transport.toList.map (Io.refused · packet) ++ s.closing := by
        rw [lastWords, closing, closing, hu]
      dsimp only
      rw [hlast]
      refine .of_closing ho ?_ ?_ rfl
      · intro transport ht
        rw [ht]
        exact .failed packet
      · intro ht
        rw [ht]
        rfl
  | discarded attempt transport _ => exact .discarded attempt transport
  | began _ hs _ _ => exact .left rfl rfl fun ht => absurd hs (hi ht)
  | failed e hs => exact .left rfl rfl (by simp [hf e rfl])
  | closed _ => exact .of_closing rfl (fun _ _ => .silent) (fun _ => rfl) rfl
  | refused _ _ _ => exact .of_closing rfl (fun _ _ => .silent) (fun _ => rfl) rfl
  | accepted _ hs _ => exact .left rfl rfl fun _ => ⟨rfl, by simp⟩
  | delivered _ hs _ | completed _ _ _ _ hs _ _ | ponged hs | exhausted _ _ _ _ hs _ =>
    exact .left rfl rfl fun _ => ⟨rfl, by simp [hs]⟩
  | disconnected _ =>
    refine .of_closing rfl ?_ ?_ rfl
    · intro transport ht
      rw [goodbye, ht]
      cases fault with
      | none => exact .left
      | some _ => exact .failed .disconnect
    · intro ht
      rw [goodbye, ht]
      rfl

end Rules

/-! ### Whole runs -/

def wire (transport : TransportId) (ms : List Move) : List Io :=
  (ms.flatMap Move.io).filter (·.transport = transport)

theorem wire_append (transport : TransportId) (ms ms' : List Move) :
    wire transport (ms ++ ms') = wire transport ms ++ wire transport ms' := by
  simp [wire]

theorem wire_concat (transport : TransportId) (ms : List Move) (m : Move) :
    wire transport (ms ++ [m]) =
      wire transport ms ++ m.io.filter (·.transport = transport) := by
  simp [wire]

theorem wire_of_own {t : TransportId} {ms : List Move} {m : Move}
    (h : ∀ x ∈ m.io, x.transport = t) : wire t (ms ++ [m]) = wire t ms ++ m.io := by
  rw [wire_concat, List.filter_eq_self.mpr fun x hx => decide_eq_true (h x hx)]

theorem wire_of_other {t t' : TransportId} {ms : List Move} {m : Move}
    (h : ∀ x ∈ m.io, x.transport = t) (hne : t' ≠ t) : wire t' (ms ++ [m]) = wire t' ms := by
  rw [wire_concat, List.filter_eq_nil_iff.mpr, List.append_nil]
  intro x hx
  rw [h x hx]
  simpa using hne.symm

/-- The installed transport is open and belongs to the latest attempt; any other that was ever
handed in is over; and no others have been touched. -/
structure Wired (s : Session) (ms : List Move) : Prop where
  opening : ∀ t, s.transport = some t → (s.attempt, t) ∈ openings ms
  status : s.transport.isSome → s.status ≠ .disconnected
  talking : ∀ t, s.transport = some t → Io.Open t (wire t ms)
  parted : ∀ k t, (k, t) ∈ openings ms → s.transport ≠ some t → Io.Over t (wire t ms)
  untouched : ∀ t, (∀ k, (k, t) ∉ openings ms) → wire t ms = []

namespace Wired

variable {s v : Session} {ms : List Move} {m : Move}

/-- A transport that is not handed in stays what it was, if it is installed as before or touched by
no one. -/
theorem of_same (h : Wired s ms) (hi : m.action.input.opening? = none) (hio : m.io = [])
    (ht : v.transport = s.transport)
    (hv : s.transport.isSome → v.attempt = s.attempt ∧ v.status ≠ .disconnected) :
    Wired v (ms ++ [m]) := by
  have ho : openings (ms ++ [m]) = openings ms := by rw [openings_concat, hi]; simp
  have hw : ∀ t, wire t (ms ++ [m]) = wire t ms := by intro t; rw [wire_concat, hio]; simp
  refine ⟨?opening, ?status, ?talking, ?parted, ?untouched⟩
  case opening =>
    intro t hvt
    rw [ht] at hvt
    rw [ho, (hv (Option.isSome_of_eq_some hvt)).1]
    exact h.opening t hvt
  case status =>
    intro hvt
    rw [ht] at hvt
    exact (hv hvt).2
  case talking =>
    intro t hvt
    rw [ht] at hvt
    rw [hw]
    exact h.talking t hvt
  case parted =>
    intro k t hk hne
    rw [ho] at hk
    rw [ht] at hne
    rw [hw]
    exact h.parted k t hk hne
  case untouched =>
    intro t hk
    rw [ho] at hk
    rw [hw]
    exact h.untouched t hk

theorem of_own (h : Wired s ms) (hi : m.action.input.opening? = none) {t : TransportId}
    (ht : s.transport = some t) (hown : ∀ x ∈ m.io, x.transport = t)
    (hv : v.transport = some t ∧ (v.attempt = s.attempt ∧ v.status ≠ .disconnected) ∧
        Io.Open t (wire t ms ++ m.io) ∨
      v.transport = none ∧ Io.Over t (wire t ms ++ m.io)) : Wired v (ms ++ [m]) := by
  have ho : openings (ms ++ [m]) = openings ms := by rw [openings_concat, hi]; simp
  have hstays : ∀ t', v.transport = some t' → t' = t := by
    intro t' hvt
    rcases hv with ⟨hv, -⟩ | ⟨hv, -⟩
    · exact Option.some.inj (hvt.symm.trans hv)
    · rw [hv] at hvt
      cases hvt
  refine ⟨?opening, ?status, ?talking, ?parted, ?untouched⟩
  case opening =>
    intro t' hvt
    obtain rfl := hstays t' hvt
    rcases hv with ⟨-, ⟨ha, -⟩, -⟩ | ⟨hv, -⟩
    · rw [ho, ha]
      exact h.opening t' ht
    · rw [hv] at hvt
      cases hvt
  case status =>
    intro hvt
    rcases hv with ⟨-, ⟨-, hst⟩, -⟩ | ⟨hv, -⟩
    · exact hst
    · rw [hv] at hvt
      cases hvt
  case talking =>
    intro t' hvt
    obtain rfl := hstays t' hvt
    rw [wire_of_own hown]
    rcases hv with ⟨-, -, hopen⟩ | ⟨hv, -⟩
    · exact hopen
    · rw [hv] at hvt
      cases hvt
  case parted =>
    intro k t' hk hne
    rw [ho] at hk
    by_cases htt : t' = t
    · subst htt
      rw [wire_of_own hown]
      rcases hv with ⟨hv, -⟩ | ⟨-, hover⟩
      · exact absurd hv hne
      · exact hover
    · rw [wire_of_other hown htt]
      refine h.parted k t' hk ?_
      rw [ht]
      exact fun heq => htt (Option.some.inj heq).symm
  case untouched =>
    intro t' hk
    rw [ho] at hk
    rw [wire_of_other hown]
    · exact h.untouched t' hk
    · rintro rfl
      exact hk s.attempt (h.opening t' ht)

theorem of_new (h : Wired s ms) {k : Nat} {t : TransportId}
    (hin : m.action.input = .report k (.opened t)) (hnew : ∀ j, (j, t) ∉ openings ms)
    (hown : ∀ x ∈ m.io, x.transport = t)
    (hv : s.transport = none ∧ v.transport = some t ∧ (v.attempt = k ∧ v.status ≠ .disconnected) ∧
        Io.Open t m.io ∨
      v.transport = s.transport ∧
        (s.transport.isSome → v.attempt = s.attempt ∧ v.status ≠ .disconnected) ∧
        Io.Over t m.io) : Wired v (ms ++ [m]) := by
  have ho : openings (ms ++ [m]) = openings ms ++ [(k, t)] := by
    rw [openings_concat, hin]
    rfl
  have hwire : wire t (ms ++ [m]) = m.io := by
    rw [wire_of_own hown, h.untouched t hnew, List.nil_append]
  have hold : ∀ j t', (j, t') ∈ openings ms → t' ≠ t := by
    rintro j t' hj rfl
    exact hnew j hj
  have hinstalled : s.transport ≠ some t := fun ht => hnew s.attempt (h.opening t ht)
  refine ⟨?opening, ?status, ?talking, ?parted, ?untouched⟩
  case opening =>
    intro t' hvt
    rw [ho, List.mem_append]
    rcases hv with ⟨-, hv, ⟨ha, -⟩, -⟩ | ⟨hv, hst, -⟩
    · obtain rfl := Option.some.inj (hvt.symm.trans hv)
      exact .inr (by rw [ha]; exact List.mem_singleton_self _)
    · rw [hv] at hvt
      rw [(hst (Option.isSome_of_eq_some hvt)).1]
      exact .inl (h.opening t' hvt)
  case status =>
    intro hvt
    rcases hv with ⟨-, -, ⟨-, hst⟩, -⟩ | ⟨hv, hst, -⟩
    · exact hst
    · rw [hv] at hvt
      exact (hst hvt).2
  case talking =>
    intro t' hvt
    rcases hv with ⟨-, hv, -, hopen⟩ | ⟨hv, -, -⟩
    · obtain rfl := Option.some.inj (hvt.symm.trans hv)
      rw [hwire]
      exact hopen
    · rw [hv] at hvt
      rw [wire_of_other hown (hold _ _ (h.opening t' hvt))]
      exact h.talking t' hvt
  case parted =>
    intro j t' hj hne
    rw [ho, List.mem_append, List.mem_singleton] at hj
    rcases hj with hj | hj
    · rw [wire_of_other hown (hold j t' hj)]
      refine h.parted j t' hj ?_
      rcases hv with ⟨hs, -⟩ | ⟨hv, -⟩
      · simp [hs]
      · rwa [← hv]
    · cases hj
      rw [hwire]
      rcases hv with ⟨-, hv, -⟩ | ⟨-, -, hover⟩
      · exact absurd hv hne
      · exact hover
  case untouched =>
    intro t' hk
    have htt : t' ≠ t := by
      rintro rfl
      exact hk k (by rw [ho]; simp)
    rw [wire_of_other hown htt]
    refine h.untouched t' fun j hj => hk j ?_
    rw [ho]
    exact List.mem_append_left _ hj

theorem step (h : Wired s ms) (hh : Handles s m.action.input v m.io)
    (hp : m.action.input.Possible ms) : Wired v (ms ++ [m]) := by
  -- An attempt that is opened now has not installed a transport before.
  have hfree : ∀ t, m.action.input = .report s.attempt (.opened t) → s.transport = none := by
    intro t hin
    rw [hin] at hp
    cases ht : s.transport with
    | none => rfl
    | some t' => exact absurd (mem_dialed_of_mem_openings (h.opening t' ht)) hp.2.1
  have hnew : ∀ k t, m.action.input = .report k (.opened t) → ∀ j, (j, t) ∉ openings ms := by
    intro k t hin
    rw [hin] at hp
    exact hp.2.2
  generalize hin : m.action.input = input at hh
  generalize hio : m.io = io at hh
  cases hh with
  | left hi ht hv => exact h.of_same (hin ▸ hi) hio ht hv
  | talked hi hs ht hpk ht' ha hv =>
    refine h.of_own (hin ▸ hi) ht (by simp [hio, Io.transport]) (.inl ⟨ht', ⟨ha, by simp [hv]⟩, ?_⟩)
    rw [hio]
    exact .talk (h.talking _ ht) hpk
  | dropped hi ht hl hv =>
    refine h.of_own (hin ▸ hi) ht (hio ▸ hl.own) (.inr ⟨hv, ?_⟩)
    rw [hio]
    exact .ended (h.talking _ ht) hl
  | installed packet hs ht ha hv =>
    refine h.of_new hin (hnew _ _ hin) (by simp [hio, Io.transport])
      (.inl ⟨hfree _ hin, ht, ⟨ha, by simp [hv]⟩, ?_⟩)
    rw [hio]
    exact .connect packet
  | unheard packet hv =>
    refine h.of_new hin (hnew _ _ hin) (by simp [hio, Io.transport])
      (.inr ⟨hv.trans (hfree _ hin).symm, by simp [hfree _ hin], ?_⟩)
    rw [hio]
    exact .unheard packet
  | discarded attempt transport =>
    refine h.of_new hin (hnew _ _ hin) (by simp [hio, Io.transport])
      (.inr ⟨rfl, fun ht => ⟨rfl, h.status ht⟩, ?_⟩)
    rw [hio]
    exact .unused

end Wired

theorem Wired.handles {s : Session} {ms : List Move} (h : Wired s ms) {a : Action}
    (hp : a.input.Possible ms) :
    Handles (s.atTime a.now) a.input (Move.mk s a).after (Move.mk s a).io := by
  refine (Move.mk s a).transition.handles h.status ?_
  intro e hin
  rw [show a.input = _ from hin] at hp
  cases ht : s.transport with
  | none => exact ht
  | some t => exact absurd (mem_dialed_of_mem_openings (h.opening t ht)) hp.2

theorem wired_run (o : ConnectOptions) (as : List Action) (h : Networked ((new o).moves as)) :
    Wired ((new o).run as) ((new o).moves as) := by
  induction as using List.reverseRecOn with
  | nil => exact ⟨nofun, nofun, nofun, nofun, fun _ _ => rfl⟩
  | append_singleton as a ih =>
    rw [moves_concat] at h ⊢
    rw [run_concat]
    obtain ⟨hms, hp⟩ := networked_concat.mp h
    have hw := ih hms
    have hw' : Wired (Move.mk ((new o).run as) a).start ((new o).moves as) :=
      ⟨hw.opening, hw.status, hw.talking, hw.parted, hw.untouched⟩
    exact hw'.step (hw.handles hp) hp

theorem Wired.installed_of_closes {s : Session} {ms : List Move} (h : Wired s ms) {k : Nat}
    {t : TransportId} (hk : (k, t) ∈ openings ms)
    (hc : (Traffic.ofTransport (ms.flatMap Move.io) t).closes = 0) : s.transport = some t := by
  by_contra hne
  exact absurd ((h.parted k t hk hne).closes.symm.trans hc) Nat.one_ne_zero

/-! ### Nothing is said before the server accepts -/

def Move.Welcomes (m : Move) (attempt : Nat) : Prop :=
  ∃ connack, m.action.input = .report attempt (.received (.connack connack)) ∧
    connack.returnCode.isAccepted ∧ .connectionSuccess connack ∈ m.events

theorem Transition.welcomed {s : Session} {fault : Option Error} {input : Input} {y : Yield}
    (h : Transition s fault input y) (hy : y.session.status = .connected) :
    y.session.attempt = s.attempt ∧ (s.status = .connected ∨
      ∃ connack, input = .report s.attempt (.received (.connack connack)) ∧
        connack.returnCode.isAccepted ∧ .connectionSuccess connack ∈ y.events) := by
  cases h with
  | wrote hw _ _ =>
    obtain ⟨-, -, hst, ha⟩ := hw.frame
    exact ⟨ha, .inl (hst.symm.trans hy)⟩
  | accepted connack _ hc => exact ⟨rfl, .inr ⟨connack, rfl, hc, List.mem_singleton_self _⟩⟩
  | idle _ | discarded _ _ _ | delivered _ _ _ | completed _ _ _ _ _ _ _ | ponged _
  | exhausted _ _ _ _ _ _ => exact ⟨rfl, .inl hy⟩
  | writeFailed _ _ | began _ _ _ _ | failed _ _ | closed _ | refused _ _ _
  | disconnected _ => cases hy

theorem welcomed_run (o : ConnectOptions) (as : List Action)
    (hst : ((new o).run as).status = .connected) :
    ∃ m ∈ (new o).moves as, m.Welcomes ((new o).run as).attempt := by
  induction as using List.reverseRecOn with
  | nil => cases hst
  | append_singleton as a ih =>
    rw [moves_concat, run_concat] at *
    obtain ⟨ha, hs | hc⟩ := (Move.mk ((new o).run as) a).transition.welcomed hst
    · obtain ⟨m, hm, hw⟩ := ih hs
      refine ⟨m, List.mem_append_left _ hm, ?_⟩
      rw [show (Move.mk ((new o).run as) a).after.attempt = ((new o).run as).attempt from ha]
      exact hw
    · refine ⟨⟨(new o).run as, a⟩, List.mem_append_right _ (List.mem_singleton_self _), ?_⟩
      rw [show (Move.mk ((new o).run as) a).after.attempt = ((new o).run as).attempt from ha]
      exact hc

theorem attempted?_of_mem_closing {s : Session} {x : Io} (hx : x ∈ s.closing) :
    x.attempted? = none :=
  List.filterMap_eq_nil_iff.mp s.attempted_closing x hx

/-- A packet that a transport is handed comes from one of the places that write, whose operation
returns well if the packet is taken; or it is the farewell. -/
theorem Transition.attempted {s : Session} {fault : Option Error} {input : Input} {y : Yield}
    (h : Transition s fault input y) {x : Io} {packet : Packet} (hx : x ∈ y.io)
    (ha : x.attempted? = some packet) :
    (∃ u v events output, Writes s input packet u v events output ∧
      u.transport = some x.transport ∧ (x.packet? = some packet → y.result = .ok output)) ∨
    packet = .disconnect := by
  have hclosing : x ∉ s.closing := by
    intro hmem
    rw [attempted?_of_mem_closing hmem] at ha
    cases ha
  cases h with
  | wrote hw ht _ =>
    cases List.mem_singleton.mp hx
    cases ha
    exact .inl ⟨_, _, _, _, hw, ht, fun _ => rfl⟩
  | writeFailed hw _ =>
    rcases List.mem_append.mp hx with hx | hx
    · obtain ⟨transport, ht, rfl⟩ := List.mem_map.mp hx
      cases ha
      exact .inl ⟨_, _, _, _, hw, Option.mem_toList.mp ht, nofun⟩
    · rw [attempted?_of_mem_closing hx] at ha
      cases ha
  | discarded _ _ _ =>
    cases List.mem_singleton.mp hx
    cases ha
  | closed _ | refused _ _ _ => exact absurd hx hclosing
  | disconnected _ =>
    rcases List.mem_append.mp hx with hx | hx
    · obtain ⟨transport, -, rfl⟩ := List.mem_map.mp hx
      split at ha
      · exact .inr (Option.some.inj ha).symm
      · exact .inr (Option.some.inj ha).symm
    · exact absurd hx hclosing
  | idle _ | began _ _ _ _ | failed _ _ | accepted _ _ _ | delivered _ _ _
  | completed _ _ _ _ _ _ _ | ponged _ | exhausted _ _ _ _ _ _ => cases hx

theorem Transition.of_talk {s : Session} {fault : Option Error} {input : Input} {y : Yield}
    (h : Transition s fault input y) {x : Io} {packet : Packet} (hx : x ∈ y.io)
    (ha : x.attempted? = some packet) (hp : packet.isTalk) :
    s.status = .connected ∧ s.transport = some x.transport := by
  rcases h.attempted hx ha with ⟨u, v, events, output, hw, ht, -⟩ | rfl
  · rcases hw.connect_or_talk with ⟨_, _, _, rfl, _⟩ | ⟨_, hs, _, hu⟩
    · cases hp
    · exact ⟨hs, hu.symm.trans ht⟩
  · cases hp

/-- Talk to a transport comes after the acceptance of the attempt that it belongs to. -/
theorem welcomed_of_talk (o : ConnectOptions) (as : List Action) (a : Action)
    (h : Networked ((new o).moves as)) {x : Io} {packet : Packet}
    (hx : x ∈ (Move.mk ((new o).run as) a).io) (ha : x.attempted? = some packet)
    (hp : packet.isTalk) :
    ∃ k, (k, x.transport) ∈ openings ((new o).moves as) ∧
      ∃ m ∈ (new o).moves as, m.Welcomes k := by
  obtain ⟨hs, ht⟩ := (Move.mk ((new o).run as) a).transition.of_talk hx ha hp
  exact ⟨_, (wired_run o as h).opening _ ht, welcomed_run o as hs⟩

/-- Where reports come from a network, every transport that is handed in takes a CONNECT, then talk
on the accepted connection it belongs to, then a DISCONNECT at most; after a write that failed, and
once it is closed, nothing is written to it; and it is closed exactly once, unless it is the
installed transport of the current attempt. -/
theorem transports_disciplined (o : ConnectOptions) (as : List Action)
    (h : Networked ((new o).moves as)) :
    let s := (new o).run as
    let ms := (new o).moves as
    ∀ k t, (k, t) ∈ openings ms →
      let traffic := Traffic.ofTransport (ms.flatMap Move.io) t
      (∃ packet talk, (∀ p ∈ talk, Packet.isTalk p) ∧
        traffic.written <+: .connect packet :: (talk ++ [.disconnect])) ∧
      (∀ earlier m, earlier ++ [m] <+: ms → ∀ x ∈ m.io, x.transport = t →
        ∀ p, x.attempted? = some p → p.isTalk → ∃ n ∈ earlier, n.Welcomes k) ∧
      Io.Quits (wire t ms) ∧
      (s.transport = some t ∧ s.isCurrent k ∧ traffic.closes = 0 ∨
        s.transport ≠ some t ∧ traffic.closes = 1) := by
  intro s ms k t hk traffic
  have hw : Wired s ms := wired_run o as h
  have htalk : ∀ earlier m, earlier ++ [m] <+: ms → ∀ x ∈ m.io, x.transport = t →
      ∀ p, x.attempted? = some p → p.isTalk → ∃ n ∈ earlier, n.Welcomes k := by
    rintro earlier m hpre x hx rfl p ha hp
    obtain ⟨bs, rfl, hb⟩ := exists_of_prefix_moves hpre
    obtain ⟨before, action⟩ := m
    cases hb
    have hbs : (new o).moves bs <+: ms := (List.prefix_append _ _).trans hpre
    obtain ⟨j, hj, hwelcome⟩ := welcomed_of_talk o bs action (h.of_earlier hbs) hx ha hp
    obtain rfl := h.opening_unique hk (openings_subset hbs hj)
    exact hwelcome
  by_cases ht : s.transport = some t
  · have hopen := hw.talking t ht
    obtain rfl := h.opening_unique hk (hw.opening t ht)
    obtain ⟨packet, talk, hall, hwritten⟩ := hopen.written
    refine ⟨⟨packet, talk, hall, ?_⟩, htalk, hopen.quits, .inl ⟨ht, ?_, hopen.closes⟩⟩
    · show (wire t ms).filterMap Io.packet? <+: _
      rw [hwritten]
      exact List.prefix_append (.connect packet :: talk) [.disconnect]
    · simp [isCurrent, hw.status (Option.isSome_of_eq_some ht)]
  · have hover := hw.parted k t hk ht
    exact ⟨hover.written, htalk, hover.quits, .inr ⟨ht, hover.closes⟩⟩

/-- A connection that is accepted and used. -/
theorem transports_disciplined_accepted :
    let begins : Action := ⟨.startConnect "", 0, none⟩
    let opens : Action := ⟨.report 1 (.opened 0), 0, none⟩
    let accepts : Action := ⟨.report 1 (.received (.connack ⟨false, .accepted⟩)), 0, none⟩
    let pings : Action := ⟨.request .ping, 0, none⟩
    let ms := (new {}).moves [begins, opens, accepts, pings]
    Networked ms ∧ (1, 0) ∈ openings ms ∧ Io.Quits (wire 0 ms) ∧
      (Traffic.ofTransport (ms.flatMap Move.io) 0).closes = 0 := by
  intro begins opens accepts pings ms
  have hbegun : ∀ as, 1 ∈ begun ((new {}).moves (begins :: as)) := fun as =>
    List.mem_filterMap.mpr ⟨⟨new {}, begins⟩, List.mem_cons_self, rfl⟩
  have hopened : ∀ as, (1, 0) ∈ openings ((new {}).moves (begins :: opens :: as)) := fun as =>
    List.mem_filterMap.mpr
      ⟨⟨_, opens⟩, List.mem_cons_of_mem _ List.mem_cons_self, rfl⟩
  have h₁ : Networked ((new {}).moves [begins]) :=
    (networked_moves_concat (new {}) [] begins).mpr ⟨networked_nil, trivial⟩
  have h₂ : Networked ((new {}).moves [begins, opens]) :=
    (networked_moves_concat (new {}) [begins] opens).mpr
      ⟨h₁, hbegun [], List.not_mem_nil, fun _ => List.not_mem_nil⟩
  have h₃ : Networked ((new {}).moves [begins, opens, accepts]) :=
    (networked_moves_concat (new {}) [begins, opens] accepts).mpr ⟨h₂, hbegun _, 0, hopened _⟩
  have h : Networked ms :=
    (networked_moves_concat (new {}) [begins, opens, accepts] pings).mpr ⟨h₃, trivial⟩
  have hinstalled : ((new {}).run [begins, opens, accepts, pings]).transport = some 0 := rfl
  obtain ⟨-, -, hquits, hend⟩ :=
    transports_disciplined {} [begins, opens, accepts, pings] h 1 0 (hopened _)
  rcases hend with ⟨-, -, hcloses⟩ | ⟨ht, -⟩
  · exact ⟨h, hopened _, hquits, hcloses⟩
  · exact absurd hinstalled ht

end Session

end Mqtt
