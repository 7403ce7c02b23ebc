import Mqtt.Proofs.Activities
import Mqtt.Proofs.Lifecycle
import Mqtt.Proofs.Wire

/-!
# Attempts

Attempts are numbered from one on, and only a connect call begins one; what an application requests
belongs to the latest. A transport that is handed in for it takes the CONNECT, or is closed at once;
one that is handed in for an attempt that is over, or replaced, is closed and never written to. Once
a transport is not installed any more, nothing happens to it. And each attempt that has ended had
exactly one result.
-/

namespace Mqtt

def Mark.isResult : Mark → Bool
  | .success | .failure => true
  | .attempt | .closed | .disconnect => false

namespace Session

section Rules

variable {s : Session} {fault : Option Error} {input : Input} {y : Yield}

theorem Writes.output_ne {u v : Session} {packet : Packet} {events : List Event} {output : Output}
    (h : Writes s input packet u v events output) (k : Nat) : output ≠ .attempt k := by
  cases h <;> nofun

theorem Idle.result_ne {result : Except Error Output} (h : Idle s input result) (k : Nat) :
    result ≠ .ok (.attempt k) := by
  cases h <;> nofun

/-- An attempt begins with the next number, or the number stays. -/
theorem Transition.attempt_eq_or (h : Transition s fault input y) :
    y.session.attempt = s.attempt ∧ (∀ k, y.result ≠ .ok (.attempt k)) ∨
      (∃ generated, input = .startConnect generated) ∧ s.status = .disconnected ∧
        y.result = .ok (.attempt (s.attempt + 1)) ∧ y.session.attempt = s.attempt + 1 := by
  cases h with
  | idle h => exact .inl ⟨rfl, h.result_ne⟩
  | wrote hw _ _ =>
    refine .inl ⟨hw.frame.2.2.2, fun k hk => hw.output_ne k ?_⟩
    cases hk
    rfl
  | writeFailed hw _ => exact .inl ⟨hw.frame.1.2.2, nofun⟩
  | began generated hs _ _ => exact .inr ⟨⟨generated, rfl⟩, hs, rfl, rfl⟩
  | discarded _ _ _ | failed _ _ | closed _ | accepted _ _ _ | refused _ _ _ | delivered _ _ _
  | completed _ _ _ _ _ _ _ | ponged _ | exhausted _ _ _ _ _ _ | disconnected _ =>
    exact .inl ⟨rfl, nofun⟩

theorem Transition.of_opened {k : Nat} {t : TransportId}
    (h : Transition s fault (.report k (.opened t)) y) :
    k = s.attempt ∧ s.status = .connecting ∧
      ((∃ packet, y.result = .ok .done ∧ y.io = [.wrote t (.connect packet)]) ∨
        ∃ packet e, y.result = .error e ∧ y.session.transport = none ∧
          y.io = [.refused t (.connect packet), .closed t]) ∨
    y.result = .error (.attemptCancelled s.status) ∧ y.session.transport = s.transport ∧
      y.io = [.closed t] := by
  cases h with
  | wrote hw ht _ =>
    cases hw with
    | connect _ hs =>
      cases ht
      exact .inl ⟨rfl, hs, .inl ⟨_, rfl, rfl⟩⟩
  | writeFailed hw _ =>
    cases hw with
    | connect _ hs => exact .inl ⟨rfl, hs, .inr ⟨_, _, rfl, rfl, rfl⟩⟩
  | discarded _ _ _ => exact .inr ⟨rfl, rfl, rfl⟩
  | idle hi =>
    cases hi with
    | staleReport _ _ _ hr => exact absurd rfl (hr t)

theorem Move.of_opened {m : Move} {k : Nat} {t : TransportId}
    (h : m.action.input = .report k (.opened t)) :
    m.before.isCurrent k ∧
      ((∃ packet, m.result = .ok .done ∧ m.io = [.wrote t (.connect packet)]) ∨
        ∃ packet e, m.result = .error e ∧ m.after.transport = none ∧
          m.io = [.refused t (.connect packet), .closed t]) ∨
    m.result = .error (.attemptCancelled m.before.status) ∧
      m.after.transport = m.before.transport ∧ m.io = [.closed t] := by
  rcases (m.transition_of h).of_opened with ⟨hk, hst, hend⟩ | hd
  · have hst' : m.before.status = .connecting := hst
    have hk' : k = m.before.attempt := hk
    exact .inl ⟨by simp [isCurrent, hk', hst'], hend⟩
  · exact .inr hd

end Rules

/-! ### Numbers -/

theorem begun_concat (ms : List Move) (m : Move) :
    begun (ms ++ [m]) = begun ms ++ m.begun?.toList := by
  cases h : m.begun? <;> simp [begun, h]

theorem Move.begun?_eq_some {m : Move} {k : Nat} :
    m.begun? = some k ↔ m.result = .ok (.attempt k) := by
  unfold Move.begun?
  split
  case h_1 j hj =>
    rw [hj]
    simp
  case h_2 hn =>
    refine ⟨nofun, fun h => absurd h (hn k)⟩

theorem mem_begun_run {o : ConnectOptions} {as : List Action} {k : Nat}
    (h : k ∈ begun ((new o).moves as)) : 1 ≤ k ∧ k ≤ ((new o).run as).attempt := by
  induction as using List.reverseRecOn with
  | nil => cases h
  | append_singleton as a ih =>
    rw [moves_concat, begun_concat, List.mem_append, Option.mem_toList, Move.begun?_eq_some] at h
    rw [run_concat]
    have hm := (Move.mk ((new o).run as) a).transition.attempt_eq_or
    change (Move.mk ((new o).run as) a).after.attempt = ((new o).run as).attempt ∧ _ ∨
      _ ∧ _ ∧ _ ∧ (Move.mk ((new o).run as) a).after.attempt = ((new o).run as).attempt + 1 at hm
    rcases h with h | h
    · have hk := ih h
      rcases hm with ⟨ha, -⟩ | ⟨-, -, -, ha⟩ <;> omega
    · rcases hm with ⟨-, hne⟩ | ⟨-, -, hr, ha⟩
      · exact absurd h (hne k)
      · have hk : k = ((new o).run as).attempt + 1 := by
          have heq := h.symm.trans hr
          cases heq
          rfl
        omega

/-! ### Requests -/

variable {s : Session} {as : List Action}

theorem Transition.attempt_of_request {fault : Option Error} {q : Request} {y : Yield}
    (h : Transition s fault (.request q) y) :
    y.session.attempt = s.attempt ∧ ∀ k, y.result ≠ .ok (.attempt k) := by
  rcases h.attempt_eq_or with hsame | ⟨⟨_, hin⟩, -⟩
  · exact hsame
  · cases hin

theorem attempt_of_requests (h : Requests as) :
    (s.run as).attempt = s.attempt ∧ ∀ m ∈ s.moves as, m.after.attempt = s.attempt := by
  induction as generalizing s with
  | nil => exact ⟨rfl, by simp⟩
  | cons a as ih =>
    obtain ⟨q, hq⟩ := h a List.mem_cons_self
    have ha : (Move.mk s a).after.attempt = s.attempt :=
      ((Move.mk s a).transition_of hq).attempt_of_request.1
    obtain ⟨hrun, hall⟩ := ih (s := (Move.mk s a).after) h.tail
    refine ⟨hrun.trans ha, ?_⟩
    rw [moves_cons]
    intro m hm
    rcases List.mem_cons.mp hm with rfl | hm
    · exact ha
    · exact (hall m hm).trans ha

theorem attempt_of_own_requests (s : Session) (a : Option Action) {bs : List Action}
    (hb : Requests bs) :
    ∀ m ∈ s.moves (a.toList ++ bs), m.after.attempt = (s.run (a.toList ++ bs)).attempt := by
  cases a with
  | none =>
    intro m hm
    exact ((attempt_of_requests hb).2 m hm).trans (attempt_of_requests hb).1.symm
  | some a =>
    obtain ⟨hrun, hall⟩ := attempt_of_requests (s := (Move.mk s a).after) hb
    intro m hm
    rcases List.mem_cons.mp hm with rfl | hm
    · exact hrun.symm
    · exact (hall m hm).trans hrun.symm

theorem filterMap_moves {β : Type} (f : Input → Option β) (s : Session) (as : List Action) :
    (s.moves as).filterMap (fun m => f m.action.input) = as.filterMap fun a => f a.input := by
  induction as generalizing s with
  | nil => rfl
  | cons a as ih => rw [moves_cons, List.filterMap_cons, List.filterMap_cons, ih]

/-- What is read off the inputs alone, and not off requests, comes from the one action that is
not a request. -/
theorem filterMap_moves_requests {β : Type} {f : Input → Option β}
    (hf : ∀ q, f (.request q) = none) (s : Session) (as : List Action) (a : Option Action)
    {bs : List Action} (hb : Requests bs) :
    (s.moves (as ++ (a.toList ++ bs))).filterMap (fun m => f m.action.input) =
      (s.moves as).filterMap (fun m => f m.action.input) ++
        (a.bind fun x => f x.input).toList := by
  have hown : a.toList.filterMap (fun x => f x.input) = (a.bind fun x => f x.input).toList := by
    cases a with
    | none => rfl
    | some a => cases h : f a.input <;> simp [h]
  have hrest : bs.filterMap (fun x => f x.input) = [] := by
    rw [List.filterMap_eq_nil_iff]
    intro b hb'
    obtain ⟨q, hq⟩ := hb b hb'
    rw [hq]
    exact hf q
  rw [filterMap_moves, filterMap_moves, List.filterMap_append, List.filterMap_append, hown, hrest,
    List.append_nil]

theorem Networked.append_requests (h : Networked (s.moves as)) {bs : List Action}
    (hb : Requests bs) : Networked (s.moves (as ++ bs)) := by
  induction bs using List.reverseRecOn with
  | nil => rwa [List.append_nil]
  | append_singleton bs b ih =>
    rw [← List.append_assoc, networked_moves_concat]
    obtain ⟨q, hq⟩ := hb b (List.mem_append_right _ (List.mem_singleton_self b))
    refine ⟨ih fun a ha => hb a (List.mem_append_left _ ha), ?_⟩
    rw [hq]
    trivial

/-! ### Transports that are not installed any more -/

theorem Handles.of_other {v : Session} {input : Input} {io : List Io} {t : TransportId}
    (h : Handles s input v io) (ht : s.transport ≠ some t)
    (hi : ∀ k, input ≠ .report k (.opened t)) :
    v.transport ≠ some t ∧ ∀ x ∈ io, x.transport ≠ t := by
  have hold : ∀ {t'}, s.transport = some t' → t' ≠ t := by
    rintro t' hs rfl
    exact ht hs
  have hnew : ∀ {k t'}, input = .report k (.opened t') → t' ≠ t := by
    rintro k t' hin rfl
    exact hi k hin
  cases h with
  | left _ hv _ => exact ⟨by rwa [hv], nofun⟩
  | talked _ _ hs _ hv _ _ =>
    exact ⟨by simpa [hv] using hold hs, by simpa [Io.transport] using hold hs⟩
  | dropped _ hs hl hv =>
    refine ⟨by simp [hv], fun x hx => ?_⟩
    rw [hl.own x hx]
    exact hold hs
  | installed _ _ hv _ _ =>
    exact ⟨by simpa [hv] using hnew rfl, by simpa [Io.transport] using hnew rfl⟩
  | unheard _ hv => exact ⟨by simp [hv], by simpa [Io.transport] using hnew rfl⟩
  | discarded _ _ => exact ⟨ht, by simpa [Io.transport] using hnew rfl⟩

theorem wire_of_not_installed {o : ConnectOptions} {k : Nat} {t : TransportId} (bs : List Action)
    (h : Networked ((new o).moves (as ++ bs))) (hk : (k, t) ∈ openings ((new o).moves as))
    (ht : ((new o).run as).transport ≠ some t) :
    ((new o).run (as ++ bs)).transport ≠ some t ∧
      wire t ((new o).moves (as ++ bs)) = wire t ((new o).moves as) := by
  induction bs using List.reverseRecOn with
  | nil => rw [List.append_nil]; exact ⟨ht, rfl⟩
  | append_singleton bs b ih =>
    rw [← List.append_assoc] at h ⊢
    obtain ⟨hms, hp⟩ := (networked_moves_concat _ _ _).mp h
    obtain ⟨hrun, hwire⟩ := ih hms
    have hk' : (k, t) ∈ openings ((new o).moves (as ++ bs)) :=
      openings_subset (moves_prefix_moves _ (List.prefix_append as bs)) hk
    have hi : ∀ j, b.input ≠ .report j (.opened t) := by
      intro j hin
      rw [hin] at hp
      exact hp.2.2 k hk'
    obtain ⟨hrun', hio⟩ := ((wired_run o _ hms).handles hp).of_other hrun hi
    refine ⟨by rw [run_concat]; exact hrun', ?_⟩
    rw [moves_concat, wire_concat, hwire, List.filter_eq_nil_iff.mpr, List.append_nil]
    intro x hx
    simpa using hio x hx

theorem Networked.unclosed_unique {o : ConnectOptions} (h : Networked ((new o).moves as))
    {p p' : Nat × TransportId} (hp : p ∈ openings ((new o).moves as))
    (hp' : p' ∈ openings ((new o).moves as))
    (hc : (Traffic.ofTransport (((new o).moves as).flatMap Move.io) p.2).closes = 0)
    (hc' : (Traffic.ofTransport (((new o).moves as).flatMap Move.io) p'.2).closes = 0) :
    p = p' ∧ ((new o).run as).transport = some p.2 := by
  obtain ⟨k, t⟩ := p
  obtain ⟨k', t'⟩ := p'
  have hw := wired_run o as h
  have ht := hw.installed_of_closes hp hc
  have ht' := hw.installed_of_closes hp' hc'
  obtain rfl : t = t' := Option.some.inj (ht.symm.trans ht')
  obtain rfl := h.opening_unique hp hp'
  exact ⟨rfl, ht⟩

/-! ### Results -/

def connectResults (k : Nat) (ms : List Move) : List Event :=
  ((ms.filter fun m => m.after.attempt = k).flatMap Move.events).filter (·.kind = .connectResult)

theorem connectResults_append (k : Nat) (ms ms' : List Move) :
    connectResults k (ms ++ ms') = connectResults k ms ++ connectResults k ms' := by
  simp [connectResults]

theorem connectResults_of_attempt (k : Nat) {n : Nat} {ms : List Move}
    (h : ∀ m ∈ ms, m.after.attempt = n) : connectResults k ms =
      if n = k then (ms.flatMap Move.events).filter (·.kind = .connectResult) else [] := by
  rw [connectResults]
  split
  case isTrue hk =>
    rw [List.filter_eq_self.mpr fun m hm => decide_eq_true ((h m hm).trans hk)]
  case isFalse hk =>
    have hnil : (ms.filter fun m => m.after.attempt = k) = [] := by
      rw [List.filter_eq_nil_iff]
      intro m hm
      rw [h m hm]
      simpa using hk
    rw [hnil]
    rfl

theorem countP_marks (m : Move) : m.marks.countP Mark.isResult =
    (m.events.filter (·.kind = .connectResult)).length := by
  have hown : (m.action.input.mark? m.before m.result).toList.countP Mark.isResult = 0 := by
    unfold Input.mark?
    split
    · rfl
    · split <;> rfl
    · rfl
  have hevents : ∀ es : List Event, (es.filterMap Event.mark?).countP Mark.isResult =
      (es.filter (·.kind = .connectResult)).length := by
    intro es
    rw [List.countP_filterMap, ← List.countP_eq_length_filter]
    congr 1
    funext e
    cases e <;> rfl
  rw [Move.marks, marksOf, List.countP_append, hown, hevents, Nat.zero_add]

theorem length_connectResults (k : Nat) (ms : List Move) :
    (connectResults k ms).length = (life k ms).countP Mark.isResult := by
  rw [connectResults, life, word, List.countP_flatMap, List.filter_flatMap, List.length_flatMap]
  congr 1
  apply List.map_congr_left
  intro m _
  exact (countP_marks m).symm

/-- An attempt has one result, once it is not under way any more. -/
theorem length_connectResults_run (o : ConnectOptions) (as : List Action) {k : Nat} (hk : 1 ≤ k)
    (hle : k ≤ ((new o).run as).attempt) :
    (connectResults k ((new o).moves as)).length =
      if k = ((new o).run as).attempt ∧ ((new o).run as).status = .connecting then 0 else 1 := by
  have h := lives_run o as
  have hwhole : life k ((new o).moves as) ∈ lives →
      (life k ((new o).moves as)).countP Mark.isResult = 1 := by
    generalize life k ((new o).moves as) = w
    rintro (rfl | rfl | rfl) <;> rfl
  rw [length_connectResults]
  rcases Nat.lt_or_eq_of_le hle with hlt | rfl
  · rw [if_neg (by omega)]
    exact hwhole (h.past k hk hlt)
  · cases hst : ((new o).run as).status with
    | disconnected =>
      rw [if_neg (by simp)]
      exact hwhole (h.whole hst hk)
    | connecting =>
      rw [if_pos ⟨rfl, rfl⟩, (h.begun (by rw [hst]; decide)).2, hst]
      rfl
    | connected =>
      rw [if_neg (by simp), (h.begun (by rw [hst]; decide)).2, hst]
      rfl
    | disconnecting => exact absurd hst (status_ne_disconnecting o as)

end Session

end Mqtt
