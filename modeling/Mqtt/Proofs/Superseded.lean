import Mqtt.Proofs.Attempts
import Mqtt.Proofs.Callers
import Mqtt.Proofs.InOrder

/-!
# Attempts that are replaced

However connect calls, calls of other kinds and deliveries come one after the other, the session of
the client sees reports that a network can make. So what is known of sessions and networks is known
of clients: connectors that come back too late change nothing but for their own transport, which is
closed unused; and each connect call gets its own result.
-/

namespace Mqtt

open Session

theorem Except.eq_ok_of_map {x : Except Error Unit} {y : Output}
    (h : x.map (fun _ => Output.done) = .ok y) : x = .ok () := by
  cases x with
  | ok _ => rfl
  | error _ => cases h

theorem Except.eq_error_of_map {x : Except Error Unit} {e : Error}
    (h : x.map (fun _ => Output.done) = .error e) : x = .error e := by
  cases x with
  | ok _ => cases h
  | error _ =>
    cases h
    rfl

/-! ### The part of an activity that is its own -/

namespace Activity

def dialed? : Activity → Option Nat
  | finishConnect attempt _ => some attempt
  | _ => none

def opening? : Activity → Option (Nat × TransportId)
  | finishConnect attempt (.ok transport) => some (attempt, transport)
  | _ => none

theorem bind_action?_of_call {α : Type} (r : Round) (c : Call) {f : Input → Option α}
    (hf : ∀ q, f (.request q) = none) : (((call c).action? r).bind fun a => f a.input) = none := by
  simp only [action?]
  cases c.request? with
  | none => rfl
  | some q => exact hf q

theorem bind_dialed? (r : Round) (a : Activity) :
    ((a.action? r).bind fun x => x.input.dialed?) = a.dialed? := by
  cases a with
  | call c => exact bind_action?_of_call r c fun _ => rfl
  | beginConnect => rfl
  | finishConnect attempt outcome => cases outcome <;> rfl
  | signal attempt received => cases received <;> rfl
  | look attempt | timer attempt =>
    simp only [action?]
    split <;> rfl

theorem bind_opening? (r : Round) (a : Activity) :
    ((a.action? r).bind fun x => x.input.opening?) = a.opening? := by
  cases a with
  | call c => exact bind_action?_of_call r c fun _ => rfl
  | beginConnect => rfl
  | finishConnect attempt outcome => cases outcome <;> rfl
  | signal attempt received => cases received <;> rfl
  | look attempt | timer attempt =>
    simp only [action?]
    split <;> rfl

end Activity

namespace Round

theorem result_finishConnect (r : Round) (k : Nat) (t : TransportId) :
    (Move.mk r.client.session ⟨.report k (.opened t), r.env.now, r.env.fault t⟩).result =
      (r.finishConnect k (.ok t)).1.map fun _ => .done := rfl

theorem result_beginConnect (r : Round) :
    (Move.mk r.client.session ⟨.startConnect r.env.freshId, r.env.now, none⟩).result =
      r.beginConnect.1.map .attempt := by
  have h : r.beginConnect.1 = r.startConnect.1 := by
    unfold beginConnect
    cases r.startConnect with
    | mk result u => cases result <;> rfl
  rw [h]
  rfl

theorem finishConnect_error (r : Round) (k : Nat) (e : Error) :
    (r.finishConnect k (.error e)).1 ≠ .ok () := by
  simp only [finishConnect]
  cases ((r.note (.dialFailed k e)).report k (.failed e)).1 <;> nofun

end Round

/-- The events of an activity that tell the result of an attempt. -/
def Deed.results (d : Deed) (k : Nat) : List Event :=
  if d.round.client.session.attempt = k then d.round.emitted.filter (·.kind = .connectResult)
  else []

theorem Deed.results_of_asks {d : Deed} {a : Option Action} {bs : List Action} (hb : Requests bs)
    (h : d.start.Asks d.round (a.toList ++ bs)) (k : Nat) :
    d.results k = connectResults k (d.before.session.moves (a.toList ++ bs)) := by
  have hs : d.round.client.session = d.before.session.run (a.toList ++ bs) := h.session
  have he : d.round.emitted = (d.before.session.moves (a.toList ++ bs)).flatMap Move.events :=
    h.emitted
  rw [connectResults_of_attempt k (attempt_of_own_requests d.before.session a hb), results, hs, he]

/-! ### What waits and what is delivered -/

namespace Scene

variable {s : Scene} {r : Round} {a : Activity} {k : Nat} {t : TransportId}

def io (s : Scene) : List Io := s.past.flatMap (·.round.io)

/-- The events that tell the result of an attempt: no activity goes beyond one attempt. -/
def results (s : Scene) (k : Nat) : List Event := s.past.flatMap (·.results k)

/-- What an occasion asks of the session itself, before handlers ask for more. -/
def asked (s : Scene) (oc : Occasion) : List Action :=
  (oc.activity.action? (s.client.roundIn oc.env)).toList

theorem mem_dials_arrange (h : k ∈ (s.arrange r a).dials) :
    k ∈ s.dials ∧ a.dialed? ≠ some k ∨ a = .beginConnect ∧ r.beginConnect.1 = .ok k := by
  cases a with
  | call _ | timer _ => exact .inl ⟨h, nofun⟩
  | beginConnect =>
    simp only [arrange] at h
    split at h
    case h_1 j hj =>
      rcases List.mem_append.mp h with h | h
      · exact .inl ⟨h, nofun⟩
      · cases List.mem_singleton.mp h
        exact .inr ⟨rfl, hj⟩
    case h_2 => exact .inl ⟨h, nofun⟩
  | finishConnect j outcome =>
    have hd : k ∈ s.dials.filter (· ≠ j) := by
      simp only [arrange] at h
      split at h <;> exact h
    obtain ⟨hk, hne⟩ := List.mem_filter.mp hd
    refine .inl ⟨hk, fun heq => ?_⟩
    cases heq
    simp at hne
  | look _ | signal _ _ =>
    simp only [arrange] at h
    split at h <;> exact .inl ⟨h, nofun⟩

theorem mem_deliveries_arrange (h : k ∈ (s.arrange r a).deliveries) :
    k ∈ s.deliveries ∨
      ∃ t, a = .finishConnect k (.ok t) ∧ (r.finishConnect k (.ok t)).1 = .ok () := by
  cases a with
  | call _ | timer _ => exact .inl h
  | beginConnect =>
    simp only [arrange] at h
    split at h <;> exact .inl h
  | finishConnect j outcome =>
    simp only [arrange] at h
    split at h
    case h_1 hok =>
      rcases List.mem_append.mp h with h | h
      · exact .inl h
      · cases List.mem_singleton.mp h
        cases outcome with
        | ok t => exact .inr ⟨t, rfl, hok⟩
        | error e => exact absurd hok (r.finishConnect_error k e)
    case h_2 => exact .inl h
  | look _ | signal _ _ =>
    simp only [arrange] at h
    split at h
    · exact .inl h
    · exact .inl (List.mem_of_mem_filter h)

theorem mem_transports_arrange :
    t ∈ (s.arrange r a).transports ↔ t ∈ s.transports ∨ ∃ k, a.opening? = some (k, t) := by
  have hsame : ∀ b : Activity, b.opening? = none →
      (t ∈ s.transports ↔ t ∈ s.transports ∨ ∃ k, b.opening? = some (k, t)) := by
    intro b hb
    simp [hb]
  cases a with
  | call c => exact hsame (.call c) rfl
  | timer j => exact hsame (.timer j) rfl
  | beginConnect =>
    simp only [arrange]
    split <;> exact hsame .beginConnect rfl
  | finishConnect j outcome =>
    have ht : (s.arrange r (.finishConnect j outcome)).transports =
        s.transports ++ outcome.toOption.toList := by
      simp only [arrange]
      split <;> rfl
    rw [ht, List.mem_append]
    cases outcome with
    | ok t' => simp [Activity.opening?, Except.toOption, eq_comm]
    | error e => simp [Activity.opening?, Except.toOption]
  | look j =>
    simp only [arrange]
    split <;> exact hsame (.look j) rfl
  | signal j received =>
    simp only [arrange]
    split <;> exact hsame (.signal j received) rfl

/-! ### A scene and its session -/

/-- How a connect call ended to which a connector has yielded a transport, by what the transport has
seen. -/
inductive Fate (r : Round) (k : Nat) (t : TransportId) (w : List Io) : Prop
  | used (packet : Connect) (hr : (r.finishConnect k (.ok t)).1 = .ok ())
      (hc : r.client.session.isCurrent k) (hw : .wrote t (.connect packet) ∈ w)
  | unheard (packet : Connect) (hr : (r.finishConnect k (.ok t)).1 ≠ .ok ())
      (hc : r.client.session.isCurrent k)
      (hw : w = [.refused t (.connect packet), .closed t])
  | discarded
      (hr : (r.finishConnect k (.ok t)).1 = .error (.attemptCancelled r.client.session.status))
      (hw : w = [.closed t])

/-- A connect call returns well just if its transport has seen a CONNECT. -/
theorem Fate.returned_iff {w : List Io} (h : Fate r k t w) :
    (r.finishConnect k (.ok t)).1 = .ok () ↔ ∃ packet, .wrote t (.connect packet) ∈ w := by
  cases h with
  | used packet hr _ hw => exact ⟨fun _ => ⟨packet, hw⟩, fun _ => hr⟩
  | unheard packet hr _ hw => exact ⟨fun hok => absurd hok hr, by simp [hw]⟩
  | discarded hr hw => exact ⟨by simp [hr], by simp [hw]⟩

theorem Fate.of_not_current {w : List Io} (h : Fate r k t w)
    (hc : r.client.session.isCurrent k = false) :
    (r.finishConnect k (.ok t)).1 = .error (.attemptCancelled r.client.session.status) ∧
      w = [.closed t] := by
  cases h with
  | used _ _ hcur _ => exact absurd (hc.symm.trans hcur) Bool.false_ne_true
  | unheard _ _ hcur _ => exact absurd (hc.symm.trans hcur) Bool.false_ne_true
  | discarded hr hw => exact ⟨hr, hw⟩

theorem openings_asked (o : ConnectOptions) (s : Scene) (as : List Action) (oc : Occasion)
    {bs : List Action} (hb : Requests bs) : openings ((new o).moves (as ++ (s.asked oc ++ bs))) =
      openings ((new o).moves as) ++ oc.activity.opening?.toList := by
  rw [← Activity.bind_opening? (s.client.roundIn oc.env)]
  exact filterMap_moves_requests (fun _ => rfl) (new o) as _ hb

theorem dialed_asked (o : ConnectOptions) (s : Scene) (as : List Action) (oc : Occasion)
    {bs : List Action} (hb : Requests bs) : dialed ((new o).moves (as ++ (s.asked oc ++ bs))) =
      dialed ((new o).moves as) ++ oc.activity.dialed?.toList := by
  rw [← Activity.bind_dialed? (s.client.roundIn oc.env)]
  exact filterMap_moves_requests (fun _ => rfl) (new o) as _ hb

/-- A scene, with all that its session has been asked for. -/
structure Traced (o : ConnectOptions) (s : Scene) (as : List Action) : Prop where
  session : s.client.session = (new o).run as
  networked : Networked ((new o).moves as)
  io : s.io = ((new o).moves as).flatMap Move.io
  results : ∀ k, s.results k = connectResults k ((new o).moves as)
  dials : ∀ k ∈ s.dials, k ∈ begun ((new o).moves as) ∧ k ∉ dialed ((new o).moves as)
  deliveries : ∀ k ∈ s.deliveries, ∃ t, (k, t) ∈ openings ((new o).moves as)
  transports : ∀ t, t ∈ s.transports ↔ ∃ k, (k, t) ∈ openings ((new o).moves as)
  began : ∀ d ∈ s.past, d.occasion.activity = .beginConnect → ∀ k,
    d.start.beginConnect.1 = .ok k → k ∈ begun ((new o).moves as)
  finished : ∀ d ∈ s.past, ∀ k t, d.occasion.activity = .finishConnect k (.ok t) →
    (k, t) ∈ openings ((new o).moves as) ∧ Fate d.start k t (wire t ((new o).moves as)) ∧
      ((d.start.finishConnect k (.ok t)).1 ≠ .ok () →
        ((new o).run as).transport ≠ some t ∧ k ∉ s.deliveries)

namespace Traced

variable {o : ConnectOptions} {as : List Action}

theorem filter_io (h : Traced o s as) (t : TransportId) :
    s.io.filter (·.transport = t) = wire t ((new o).moves as) := by
  rw [h.io]
  rfl

theorem returned_iff (h : Traced o s as) {d : Deed} (hd : d ∈ s.past)
    {outcome : Except Error TransportId} (hf : d.occasion.activity = .finishConnect k outcome) :
    (d.start.finishConnect k outcome).1 = .ok () ↔
      ∃ t packet, outcome = .ok t ∧ .wrote t (.connect packet) ∈ s.io := by
  cases outcome with
  | error e =>
    refine ⟨fun hok => absurd hok (d.start.finishConnect_error k e), ?_⟩
    rintro ⟨t, packet, hout, -⟩
    cases hout
  | ok t =>
    obtain ⟨-, hfate, -⟩ := h.finished d hd k t hf
    have hmem : ∀ packet, .wrote t (.connect packet) ∈ s.io ↔
        .wrote t (.connect packet) ∈ wire t ((new o).moves as) := by
      intro packet
      rw [← h.filter_io t, List.mem_filter]
      simp [Io.transport]
    rw [hfate.returned_iff]
    constructor
    · rintro ⟨packet, hw⟩
      exact ⟨t, packet, rfl, (hmem packet).mpr hw⟩
    · rintro ⟨t', packet, hout, hio⟩
      cases hout
      exact ⟨packet, (hmem packet).mp hio⟩

theorem possible (h : Traced o s as) (ha : s.admits a) (env : Env) :
    ∀ x ∈ a.action? (s.client.roundIn env), x.input.Possible ((new o).moves as) := by
  intro x hx
  cases a with
  | call c =>
    obtain ⟨q, -, rfl⟩ := Option.map_eq_some_iff.mp hx
    trivial
  | beginConnect =>
    cases hx
    trivial
  | finishConnect k outcome =>
    cases outcome with
    | ok t =>
      obtain ⟨hk, ht⟩ : k ∈ s.dials ∧ t ∉ s.transports := by simpa [admits] using ha
      cases hx
      exact ⟨(h.dials k hk).1, (h.dials k hk).2, fun j hj => ht ((h.transports t).mpr ⟨j, hj⟩)⟩
    | error e =>
      have hk : k ∈ s.dials := by simpa [admits] using ha
      cases hx
      exact ⟨(h.dials k hk).1, (h.dials k hk).2⟩
  | look k | timer k =>
    simp only [Activity.action?] at hx
    split at hx
    · cases hx
      trivial
    · cases hx
  | signal k received =>
    have hk : k ∈ s.deliveries := by simpa [admits] using ha
    obtain ⟨t, ht⟩ := h.deliveries k hk
    have hb := h.networked.begun_of_dialed (mem_dialed_of_mem_openings ht)
    cases received with
    | packet _ =>
      cases hx
      exact ⟨hb, t, ht⟩
    | closed =>
      cases hx
      exact ⟨hb, t, ht⟩

theorem not_dialed (h : Traced o s as) {outcome : Except Error TransportId}
    (ha : s.admits (.finishConnect k outcome)) : k ∉ dialed ((new o).moves as) := by
  cases outcome with
  | ok t => exact (h.possible ha ⟨0, "", fun _ => none⟩ _ rfl).2.1
  | error e => exact (h.possible ha ⟨0, "", fun _ => none⟩ _ rfl).2

/-- Only a connect call that returns well leads to a delivery, and no attempt returns twice. -/
theorem not_mem_deliveries (h : Traced o s as) (ha : s.admits a) {env : Env}
    (hk : (k, t) ∈ openings ((new o).moves as) ∧ k ∉ s.deliveries ∨
      a = .finishConnect k (.ok t) ∧
        ((s.client.roundIn env).finishConnect k (.ok t)).1 ≠ .ok ()) :
    k ∉ (s.arrange (s.client.roundIn env) a).deliveries := by
  intro hmem
  rcases mem_deliveries_arrange hmem with hd | ⟨t', hact, hok⟩
  · rcases hk with ⟨-, hn⟩ | ⟨hact, -⟩
    · exact hn hd
    · rw [hact] at ha
      obtain ⟨t', ht'⟩ := h.deliveries k hd
      exact h.not_dialed ha (mem_dialed_of_mem_openings ht')
  · rcases hk with ⟨hopen, -⟩ | ⟨hact', hne⟩
    · rw [hact] at ha
      exact h.not_dialed ha (mem_dialed_of_mem_openings hopen)
    · rw [hact] at hact'
      cases hact'
      exact hne hok

theorem networked_own (h : Traced o s as) (ha : s.admits a) (env : Env) :
    Networked ((new o).moves (as ++ (a.action? (s.client.roundIn env)).toList)) := by
  have hp := h.possible ha env
  cases hx : a.action? (s.client.roundIn env) with
  | none =>
    rw [Option.toList_none, List.append_nil]
    exact h.networked
  | some x => exact (networked_moves_concat _ _ _).mpr ⟨h.networked, hp x hx⟩

/-- The fate of a transport that is handed in is decided at once; handlers do not change it. -/
theorem fate_of_opened (h : Traced o s as) (env : Env)
    (ha : s.admits (.finishConnect k (.ok t))) {bs : List Action} (hb : Requests bs) :
    let r := s.client.roundIn env
    let all := as ++ ([⟨.report k (.opened t), env.now, env.fault t⟩] ++ bs)
    Fate r k t (wire t ((new o).moves all)) ∧
      ((r.finishConnect k (.ok t)).1 ≠ .ok () → ((new o).run all).transport ≠ some t) := by
  intro r all
  have hfresh : ∀ j, (j, t) ∉ openings ((new o).moves as) :=
    (h.possible ha env _ rfl).2.2
  have hown : Networked ((new o).moves
      (as ++ [⟨.report k (.opened t), env.now, env.fault t⟩])) := h.networked_own ha env
  generalize hx : Session.Action.mk (.report k (.opened t)) env.now (env.fault t) = x at hown
  have hall : all = as ++ [x] ++ bs := by
    rw [List.append_assoc, ← hx]
  have hresult : (Move.mk ((new o).run as) x).result =
      (r.finishConnect k (.ok t)).1.map fun _ => .done := by
    rw [← h.session, ← hx]
    exact r.result_finishConnect k t
  have hin : x.input = .report k (.opened t) := by rw [← hx]
  have hk : (k, t) ∈ openings ((new o).moves (as ++ [x])) := by
    rw [moves_concat, openings_concat, hin]
    exact List.mem_append_right _ (List.mem_singleton_self _)
  have hwire : (∀ y ∈ (Move.mk ((new o).run as) x).io, y.transport = t) →
      wire t ((new o).moves (as ++ [x])) = (Move.mk ((new o).run as) x).io := by
    intro hy
    rw [moves_concat, wire_of_own hy, (wired_run o as h.networked).untouched t hfresh,
      List.nil_append]
  -- Once the transport is not installed, the handlers leave it alone.
  have hlater : (Move.mk ((new o).run as) x).after.transport ≠ some t →
      ((new o).run all).transport ≠ some t ∧
        wire t ((new o).moves all) = wire t ((new o).moves (as ++ [x])) := by
    rw [hall, ← run_concat]
    exact wire_of_not_installed bs (hown.append_requests hb) hk
  rcases Move.of_opened (m := ⟨(new o).run as, x⟩) hin with
    ⟨hc, ⟨packet, hr, hio⟩ | ⟨packet, e, hr, ht, hio⟩⟩ | ⟨hr, ht, hio⟩
  · rw [hresult] at hr
    have hok : (r.finishConnect k (.ok t)).1 = .ok () := Except.eq_ok_of_map hr
    refine ⟨.used packet hok (h.session ▸ hc) ?_, fun hne => absurd hok hne⟩
    rw [hall, moves_append, wire_append, hwire (by simp [hio, Io.transport]), hio]
    exact List.mem_append_left _ (List.mem_singleton_self _)
  · rw [hresult] at hr
    have he : (r.finishConnect k (.ok t)).1 = .error e := Except.eq_error_of_map hr
    obtain ⟨ht', hw'⟩ := hlater (by simp [ht])
    refine ⟨.unheard packet (by simp [he]) (h.session ▸ hc) ?_, fun _ => ht'⟩
    rw [hw', hwire (by simp [hio, Io.transport]), hio]
  · rw [hresult] at hr
    have he := Except.eq_error_of_map hr
    have hinstalled : ((new o).run as).transport ≠ some t := fun heq =>
      hfresh _ ((wired_run o as h.networked).opening t heq)
    obtain ⟨ht', hw'⟩ := hlater (by rwa [ht])
    refine ⟨.discarded (h.session ▸ he) ?_, fun _ => ht'⟩
    rw [hw', hwire (by simp [hio, Io.transport]), hio]

theorem begun_of_beginConnect (h : Traced o s as) {env : Env} {bs : List Action}
    (hk : (s.client.roundIn env).beginConnect.1 = .ok k) :
    let all := as ++ ([⟨.startConnect env.freshId, env.now, none⟩] ++ bs)
    k ∈ begun ((new o).moves all) ∧ k ∉ dialed ((new o).moves as) := by
  intro all
  generalize hx : Session.Action.mk (.startConnect env.freshId) env.now none = x
  have hresult : (Move.mk ((new o).run as) x).result = .ok (.attempt k) := by
    have h' := (s.client.roundIn env).result_beginConnect
    rw [hk] at h'
    rw [← h.session, ← hx]
    exact h'
  refine ⟨?_, fun hd => ?_⟩
  · show k ∈ begun ((new o).moves (as ++ ([⟨.startConnect env.freshId, env.now, none⟩] ++ bs)))
    rw [hx, List.singleton_append, moves_append, moves_cons]
    exact List.mem_filterMap.mpr ⟨_, List.mem_append_right _ List.mem_cons_self,
      Move.begun?_eq_some.mpr hresult⟩
  · have hle := (mem_begun_run (h.networked.begun_of_dialed hd)).2
    rcases (Move.mk ((new o).run as) x).transition.attempt_eq_or with ⟨-, hne⟩ | ⟨-, -, hr, -⟩
    · exact hne k hresult
    · have heq := hresult.symm.trans hr
      cases heq
      exact absurd hle (Nat.not_succ_le_self _)

theorem finished_later (h : Traced o s as) {bs : List Action}
    (hnet : Networked ((new o).moves (as ++ bs))) {d : Deed} (hd : d ∈ s.past)
    (hf : d.occasion.activity = .finishConnect k (.ok t)) :
    (k, t) ∈ openings ((new o).moves (as ++ bs)) ∧
      Fate d.start k t (wire t ((new o).moves (as ++ bs))) ∧
      ((d.start.finishConnect k (.ok t)).1 ≠ .ok () →
        ((new o).run (as ++ bs)).transport ≠ some t) := by
  obtain ⟨hk, hfate, hrest⟩ := h.finished d hd k t hf
  have hk' : (k, t) ∈ openings ((new o).moves (as ++ bs)) :=
    openings_subset (moves_prefix_moves _ (List.prefix_append as bs)) hk
  have hgone : (d.start.finishConnect k (.ok t)).1 ≠ .ok () →
      ((new o).run (as ++ bs)).transport ≠ some t ∧
        wire t ((new o).moves (as ++ bs)) = wire t ((new o).moves as) :=
    fun hne => wire_of_not_installed bs hnet hk (hrest hne).1
  refine ⟨hk', ?_, fun hne => (hgone hne).1⟩
  cases hfate with
  | used packet hr hc hw =>
    refine .used packet hr hc ?_
    rw [moves_append, wire_append]
    exact List.mem_append_left _ hw
  | unheard packet hr hc hw => exact .unheard packet hr hc (by rw [(hgone hr).2, hw])
  | discarded hr hw =>
    exact .discarded hr (by rw [(hgone (by simp [hr])).2, hw])

/-! What an occasion adds: its own part, and what handlers request. -/

section Step

variable {oc : Occasion} {bs : List Action}

variable (h : Traced o s as) (ha : s.admits oc.activity) (hb : Requests bs)

include h

theorem begun_now (hact : oc.activity = .beginConnect)
    (hk : (s.client.roundIn oc.env).beginConnect.1 = .ok k) :
    k ∈ begun ((new o).moves (as ++ (s.asked oc ++ bs))) ∧ k ∉ dialed ((new o).moves as) := by
  rw [asked, hact]
  exact h.begun_of_beginConnect hk

include ha hb

theorem finished_now (hact : oc.activity = .finishConnect k (.ok t)) :
    let all := as ++ (s.asked oc ++ bs)
    (k, t) ∈ openings ((new o).moves all) ∧
      Fate (s.client.roundIn oc.env) k t (wire t ((new o).moves all)) ∧
      (((s.client.roundIn oc.env).finishConnect k (.ok t)).1 ≠ .ok () →
        ((new o).run all).transport ≠ some t) := by
  intro all
  refine ⟨?_, ?_⟩
  · rw [openings_asked o s as oc hb, hact]
    exact List.mem_append_right _ (List.mem_singleton_self _)
  · rw [hact] at ha
    have hfate := h.fate_of_opened oc.env ha hb
    simp only [all, asked, hact]
    exact hfate

theorem dials_later (hk : k ∈ (s.step oc).dials) :
    k ∈ begun ((new o).moves (as ++ (s.asked oc ++ bs))) ∧
      k ∉ dialed ((new o).moves (as ++ (s.asked oc ++ bs))) := by
  rw [Scene.step, if_pos ha] at hk
  rw [dialed_asked o s as oc hb, List.mem_append, Option.mem_toList, not_or]
  rcases mem_dials_arrange hk with ⟨hk, hne⟩ | ⟨hact, hok⟩
  · exact ⟨begun_subset (moves_prefix_moves _ (List.prefix_append as _)) (h.dials k hk).1,
      (h.dials k hk).2, hne⟩
  · obtain ⟨hbegun, hd⟩ := h.begun_now hact hok
    exact ⟨hbegun, hd, by rw [hact]; nofun⟩

theorem deliveries_later (hk : k ∈ (s.step oc).deliveries) :
    ∃ t, (k, t) ∈ openings ((new o).moves (as ++ (s.asked oc ++ bs))) := by
  rw [Scene.step, if_pos ha] at hk
  rcases mem_deliveries_arrange hk with hk | ⟨t, hact, -⟩
  · obtain ⟨t, ht⟩ := h.deliveries k hk
    exact ⟨t, openings_subset (moves_prefix_moves _ (List.prefix_append as _)) ht⟩
  · exact ⟨t, (h.finished_now ha hb hact).1⟩

theorem transports_later : t ∈ (s.step oc).transports ↔
    ∃ k, (k, t) ∈ openings ((new o).moves (as ++ (s.asked oc ++ bs))) := by
  rw [Scene.step, if_pos ha, openings_asked o s as oc hb]
  refine mem_transports_arrange.trans ?_
  rw [h.transports t]
  simp only [List.mem_append, Option.mem_toList, exists_or]

theorem finished_step (hnet : Networked ((new o).moves (as ++ (s.asked oc ++ bs)))) {d : Deed}
    (hd : d ∈ s.past ++ [⟨s.client, oc⟩]) (hact : d.occasion.activity = .finishConnect k (.ok t)) :
    let all := as ++ (s.asked oc ++ bs)
    (k, t) ∈ openings ((new o).moves all) ∧ Fate d.start k t (wire t ((new o).moves all)) ∧
      ((d.start.finishConnect k (.ok t)).1 ≠ .ok () →
        ((new o).run all).transport ≠ some t ∧ k ∉ (s.step oc).deliveries) := by
  rw [Scene.step, if_pos ha]
  rcases List.mem_append.mp hd with hd | hd
  · obtain ⟨hk, hfate, hgone⟩ := h.finished_later hnet hd hact
    obtain ⟨hk', -, hrest⟩ := h.finished d hd k t hact
    exact ⟨hk, hfate, fun hne => ⟨hgone hne, h.not_mem_deliveries ha (.inl ⟨hk', (hrest hne).2⟩)⟩⟩
  · cases List.mem_singleton.mp hd
    obtain ⟨hk, hfate, hgone⟩ := h.finished_now ha hb hact
    exact ⟨hk, hfate, fun hne => ⟨hgone hne, h.not_mem_deliveries ha (.inr ⟨hact, hne⟩)⟩⟩

end Step

theorem step_of_asks (h : Traced o s as) {oc : Occasion} (ha : s.admits oc.activity)
    {bs : List Action} (hb : Requests bs)
    (hasks : (s.client.roundIn oc.env).Asks (s.client.perform oc) (s.asked oc ++ bs)) :
    Traced o (s.step oc) (as ++ (s.asked oc ++ bs)) := by
  have hnet : Networked ((new o).moves (as ++ (s.asked oc ++ bs))) := by
    rw [← List.append_assoc]
    exact (h.networked_own ha oc.env).append_requests hb
  have hstep : (s.step oc).client = (s.client.perform oc).client ∧
      (s.step oc).past = s.past ++ [⟨s.client, oc⟩] := by
    rw [Scene.step, if_pos ha]
    exact ⟨rfl, rfl⟩
  refine {
    session := ?session
    networked := hnet
    io := ?io
    results := ?results
    dials := fun k hk => h.dials_later ha hb hk
    deliveries := fun k hk => h.deliveries_later ha hb hk
    transports := fun t => h.transports_later ha hb
    began := ?began
    finished := fun d hd k t hact => h.finished_step ha hb hnet (hstep.2 ▸ hd) hact }
  case session =>
    rw [hstep.1, run_append, ← h.session]
    exact hasks.session
  case io =>
    rw [moves_append, List.flatMap_append, ← h.io, ← h.session, Scene.io, hstep.2,
      List.flatMap_append, List.flatMap_singleton]
    exact congrArg (s.io ++ ·) hasks.io
  case results =>
    intro k
    rw [moves_append, connectResults_append, ← h.results k, ← h.session, Scene.results, hstep.2,
      List.flatMap_append, List.flatMap_singleton]
    exact congrArg (s.results k ++ ·) (Deed.results_of_asks (d := ⟨s.client, oc⟩) hb hasks k)
  case began =>
    intro d hd hact k hk
    rw [hstep.2] at hd
    rcases List.mem_append.mp hd with hd | hd
    · exact begun_subset (moves_prefix_moves _ (List.prefix_append as _)) (h.began d hd hact k hk)
    · cases List.mem_singleton.mp hd
      exact (h.begun_now hact hk).1

theorem step (h : Traced o s as) (oc : Occasion) : ∃ bs, Traced o (s.step oc) (as ++ bs) := by
  by_cases ha : s.admits oc.activity
  · obtain ⟨bs, hb, hasks⟩ := oc.activity.asks_perform (s.client.roundIn oc.env)
    exact ⟨s.asked oc ++ bs, h.step_of_asks ha hb hasks⟩
  · refine ⟨[], ?_⟩
    rw [List.append_nil, Scene.step, if_neg ha]
    exact h

end Traced

theorem traced_start (options : ClientOptions) : Traced options.connect (start options) [] where
  session := rfl
  networked := networked_nil
  io := rfl
  results _ := rfl
  dials _ hk := absurd hk List.not_mem_nil
  deliveries _ hk := absurd hk List.not_mem_nil
  transports t := by simp [start, openings]
  began _ hd := absurd hd List.not_mem_nil
  finished _ hd := absurd hd List.not_mem_nil

theorem traced_run (options : ClientOptions) (os : List Occasion) :
    ∃ as, Traced options.connect ((start options).run os) as := by
  induction os using List.reverseRecOn with
  | nil => exact ⟨[], traced_start options⟩
  | append_singleton os oc ih =>
    obtain ⟨as, h⟩ := ih
    obtain ⟨bs, h'⟩ := h.step oc
    rw [run, List.foldl_append]
    exact ⟨as ++ bs, h'⟩

theorem client_run (options : ClientOptions) (os : List Occasion) :
    ∃ os', ((start options).run os).client = (Client.new options).run os' := by
  induction os using List.reverseRecOn with
  | nil => exact ⟨[], rfl⟩
  | append_singleton os oc ih =>
    obtain ⟨os', h⟩ := ih
    rw [run, List.foldl_append]
    show ∃ os', (((start options).run os).step oc).client = (Client.new options).run os'
    by_cases ha : ((start options).run os).admits oc.activity
    · refine ⟨os' ++ [oc], ?_⟩
      rw [step, if_pos ha, Client.run_append, ← h]
      rfl
    · refine ⟨os', ?_⟩
      rw [step, if_neg ha, h]

end Scene

theorem Session.Transition.of_rejected {s : Session} {fault : Option Error} {generated : String}
    {y : Yield} (h : Transition s fault (.startConnect generated) y) {e : Error}
    (he : y.result = .error e) : y.session = s ∧ y.events = [] ∧ y.io = [] := by
  cases h with
  | idle _ => exact ⟨rfl, rfl, rfl⟩
  | wrote hw _ _ => cases hw
  | writeFailed hw _ => cases hw
  | began _ _ _ _ => cases he

theorem Client.perform_rejected {c : Client} (hq : c.queue = []) {env : Env} {e : Error}
    (he : (c.roundIn env).beginConnect.1 = .error e) :
    (c.perform ⟨.beginConnect, env⟩).journal = [] ∧
      (c.perform ⟨.beginConnect, env⟩).effects = [] ∧
      (c.perform ⟨.beginConnect, env⟩).client.session = c.session.atTime env.now := by
  have hresult := (c.roundIn env).result_beginConnect
  rw [he] at hresult
  have hmove := Transition.of_rejected ((Move.mk c.session
    ⟨.startConnect env.freshId, env.now, none⟩).transition_of rfl) hresult
  obtain ⟨reply, hreply⟩ : ∃ reply, reply = c.session.startConnect env.freshId env.now := ⟨_, rfl⟩
  have hbegin : Activity.begin (c.roundIn env) .beginConnect = ((c.roundIn env).take reply).2 := by
    rw [hreply]
    rfl
  have hs : reply.turn.session = c.session.atTime env.now := by rw [hreply]; exact hmove.1
  have hev : reply.turn.events = [] := by rw [hreply]; exact hmove.2.1
  have hio : reply.turn.io = [] := by rw [hreply]; exact hmove.2.2
  have hsettle : ((c.roundIn env).take reply).2.settle = ((c.roundIn env).take reply).2 := by
    simp [Round.settle, Round.take, Client.roundIn, hq, hev]
  obtain ⟨log, hlog⟩ := Activity.perform_eq .beginConnect (c.roundIn env)
  rw [hbegin, hsettle] at hlog
  have hperform : c.perform ⟨.beginConnect, env⟩ =
      { ((c.roundIn env).take reply).2 with log := log } := hlog
  rw [hperform]
  exact ⟨by simp [Round.take, Client.roundIn, hev], by simp [Round.take, Client.roundIn, hio], hs⟩

namespace Scene

theorem queue_run (options : ClientOptions) (os : List Occasion) :
    ((start options).run os).client.queue = [] := by
  obtain ⟨os', hclient⟩ := client_run options os
  rw [hclient]
  exact (Course.atRest_run options os').1

theorem step_rejected {s : Scene} {env : Env} {e : Error}
    (he : (s.client.roundIn env).beginConnect.1 = .error e) :
    s.step ⟨.beginConnect, env⟩ =
      { s with
        client := (s.client.perform ⟨.beginConnect, env⟩).client
        past := s.past ++ [⟨s.client, ⟨.beginConnect, env⟩⟩] } := by
  have harrange : s.arrange (s.client.roundIn env) .beginConnect = s := by
    simp only [arrange, he]
  show { s.arrange (s.client.roundIn env) .beginConnect with
    client := (s.client.perform ⟨.beginConnect, env⟩).client
    past := s.past ++ [Deed.mk s.client ⟨.beginConnect, env⟩] } = _
  rw [harrange]

/-- However the activities of a client come one after the other, at any time at most one of the
transports that it was given is not closed, and that one is installed. One that comes too late is
closed unused, and its connect call fails and leads to no delivery. A connect call returns well just
if the CONNECT was written to its transport. Each attempt has one result, except while it is under
way. And a connect call that may not begin leaves everything as it is. -/
theorem attempts_kept_apart (options : ClientOptions) (os : List Occasion) :
    let s := (start options).run os
    (∃ as, s.client.session = (new options.connect).run as ∧
      s.io = ((new options.connect).moves as).flatMap Move.io ∧
      (∀ t, t ∈ s.transports ↔ ∃ k, (k, t) ∈ openings ((new options.connect).moves as)) ∧
      ∀ bs, bs <+: as →
        let ms := (new options.connect).moves bs
        ∀ p ∈ openings ms, ∀ p' ∈ openings ms,
          (Traffic.ofTransport (ms.flatMap Move.io) p.2).closes = 0 →
          (Traffic.ofTransport (ms.flatMap Move.io) p'.2).closes = 0 →
          p = p' ∧ ((new options.connect).run bs).transport = some p.2) ∧
    (∀ d ∈ s.past, ∀ k t, d.occasion.activity = .finishConnect k (.ok t) →
      d.before.session.isCurrent k = false →
        s.io.filter (·.transport = t) = [.closed t] ∧
        (∃ detail, (d.start.finishConnect k (.ok t)).1 =
          .error (.invalidState d.before.session.status detail)) ∧
        k ∉ s.deliveries) ∧
    (∀ d ∈ s.past, ∀ k outcome, d.occasion.activity = .finishConnect k outcome →
      ((d.start.finishConnect k outcome).1 = .ok () ↔
        ∃ t packet, outcome = .ok t ∧ .wrote t (.connect packet) ∈ s.io)) ∧
    (∀ d ∈ s.past, d.occasion.activity = .beginConnect →
      ∀ k, d.start.beginConnect.1 = .ok k → (s.results k).length =
        if k = s.client.session.attempt ∧ s.client.session.status = .connecting then 0 else 1) ∧
    ∀ env e, (s.client.roundIn env).beginConnect.1 = .error e →
      let round := s.client.perform ⟨.beginConnect, env⟩
      let s' := s.step ⟨.beginConnect, env⟩
      round.journal = [] ∧ round.effects = [] ∧
        round.client.session = s.client.session.atTime env.now ∧
        s'.dials = s.dials ∧ s'.deliveries = s.deliveries ∧ s'.transports = s.transports := by
  intro s
  obtain ⟨as, h⟩ := traced_run options os
  refine ⟨⟨as, h.session, h.io, h.transports, ?_⟩, ?_, ?_, ?_, ?_⟩
  · rintro bs hbs ms p hp p' hp' hc hc'
    have hms : Networked ms := h.networked.of_earlier (moves_prefix_moves _ hbs)
    exact hms.unclosed_unique hp hp' hc hc'
  · intro d hd k t hact hc
    obtain ⟨-, hfate, hgone⟩ := h.finished d hd k t hact
    obtain ⟨hr, hw⟩ := hfate.of_not_current hc
    exact ⟨(h.filter_io t).trans hw, ⟨_, hr⟩, (hgone (by rw [hr]; nofun)).2⟩
  · intro d hd k outcome hact
    exact h.returned_iff hd hact
  · intro d hd hact k hk
    obtain ⟨hpos, hle⟩ := mem_begun_run (h.began d hd hact k hk)
    rw [h.results k, h.session]
    exact length_connectResults_run options.connect as hpos hle
  · intro env e he
    obtain ⟨hjournal, heffects, hsession⟩ :=
      Client.perform_rejected (queue_run options os) he
    refine ⟨hjournal, heffects, hsession, ?_⟩
    rw [step_rejected he]
    exact ⟨rfl, rfl, rfl⟩

end Scene

end Mqtt
