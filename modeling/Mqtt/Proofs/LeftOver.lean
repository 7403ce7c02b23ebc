import Mqtt.Proofs.ExactlyOnce

/-!
# Messages left over from a session that the server has lost

A server may accept a connection and say that it knows of no session. A session that outlives its
connections takes no notice: what it holds stays, and is delivered at the next release of its
identifier, even in place of a message that has come in since. Identifiers under which nothing is
left over begin anew.
-/

namespace Mqtt.Session

namespace Move

def BeginsAnew (m : Move) : Prop :=
  ∃ connack, m.action.input = .report m.before.attempt (.received (.connack connack)) ∧
    m.before.status = .connecting ∧ connack.returnCode.isAccepted ∧ connack.sessionPresent = false

def Answers (m : Move) (id : UInt16) : Prop :=
  m.accepted? = some (.pubrel id) ∧ m.result = .ok .done

end Move

/-! ### One step -/

section Rules

variable {s : Session} {fault : Option Error} {y : Yield}

theorem Transition.of_acceptance {connack : Connack}
    (h : Transition s fault (.report s.attempt (.received (.connack connack))) y)
    (hs : s.status = .connecting) (hc : connack.returnCode.isAccepted) :
    y.session = { s with status := .connected } := by
  cases h with
  | accepted _ _ _ => rfl
  | refused _ _ hn => exact absurd hc hn
  | wrote hw _ _ => cases hw
  | writeFailed hw _ => cases hw
  | completed _ _ _ _ _ hp _ => cases hp
  | idle hi =>
    cases hi with
    | staleReport _ _ ha _ => exact absurd rfl ha
    | connackLate _ hn => exact absurd hs hn
    | outOfPlace _ hp _ => cases hp
    | neverFromServer _ hp => cases hp
    | nothingPending _ _ hp _ => cases hp

end Rules

namespace Move

variable {m : Move} {id : UInt16}

theorem BeginsAnew.inflight_after (h : m.BeginsAnew) : m.after.inflight = m.before.inflight := by
  obtain ⟨connack, hin, hs, hc, -⟩ := h
  have hy := (m.transition_of hin).of_acceptance hs hc
  change m.after = { m.start with status := .connected } at hy
  rw [hy]
  rfl

theorem Answers.released (h : m.Answers id) (hm : Holding m.before) :
    m.released = m.before.inflight.held[id]?.toList := by
  obtain ⟨hin, hs⟩ := accepts?_eq_some h.1
  rcases (m.transition_of hin).answered (hm.atTime _) hs with
    ⟨transport, -, -, -, -, hr⟩ | ⟨e, -, hr, -, -⟩
  · exact hr
  · have hok : m.result = .error e := hr
    rw [h.2] at hok
    cases hok

theorem answers_of_released (hm : Holding m.before) {message : Publish}
    (h : message ∈ m.released) : m.Answers message.packetId := by
  obtain ⟨hacc, -⟩ := m.transition.accepts?_of_released (hm.atTime _) h
  have hacc' : m.accepted? = some (.pubrel message.packetId) := hacc
  obtain ⟨hin, hs⟩ := accepts?_eq_some hacc'
  rcases (m.transition_of hin).answered (hm.atTime _) hs with ⟨_, -, -, hr, -, -⟩ | ⟨_, -, -, -, hn⟩
  · exact ⟨hacc', hr⟩
  · have hnil : m.released = [] := hn
    rw [hnil] at h
    cases h

end Move

/-! ### Runs -/

theorem clears_of_persistent {m : Move} (hc : m.before.options.cleanSession = false) :
    m.clears = false := by
  rw [Move.clears, clears, hc, Bool.false_and]

/-- Where sessions outlive connections, what is held at the start of a run stands until the first
delivery under its identifier, and comes before all that comes in. -/
theorem held_run_of_persistent {s : Session} (hs : Holding s)
    (hc : s.options.cleanSession = false) (as : List Action) (id : UInt16) :
    (s.run as).inflight.held[id]? =
      if (s.moves as).any (·.releases id) then firstOffered? id (s.moves as)
      else s.inflight.held[id]?.or (firstOffered? id (s.moves as)) := by
  induction as using List.reverseRecOn with
  | nil => simp [firstOffered?, heldSince]
  | append_singleton as a ih =>
    have hm : Holding (Move.mk (s.run as) a).before :=
      run_induction hs (fun m hm => m.transition.holding (hm.atTime _)) as
    have ho : (Move.mk (s.run as) a).before.options.cleanSession = false :=
      run_induction (P := fun s => s.options.cleanSession = false) hc
        (fun m hm => (congrArg _ m.transition.options_eq).trans hm) as
    rw [run_concat, moves_concat, firstOffered?_concat, List.any_append]
    change (Move.mk (s.run as) a).before.inflight.held[id]? = _ at ih
    generalize Move.mk (s.run as) a = m at hm ho ih ⊢
    have hclears := clears_of_persistent ho
    by_cases hr : m.releases id
    · rw [Move.held_of_releases hm hclears hr]
      simp [hr]
    · have hr' : m.releases id = false := by simpa using hr
      rw [Move.held_of_not_releases hm hclears hr', ih]
      by_cases hany : (s.moves as).any (·.releases id)
      · simp [hclears, hr', hany]
      · simp [hclears, hr', hany, Option.or_assoc]

/-- A server that has lost the session does not keep what it sends apart from what it sent before:
a message that is left over is delivered in place of the new one under its identifier. -/
theorem new_message_not_released :
    ¬∀ (o : ConnectOptions) (as : List Action) (a : Action) (bs : List Action) (b : Action),
      o.cleanSession = false → (Move.mk ((new o).run as) a).BeginsAnew →
      let since := (Move.mk ((new o).run as) a).after.moves bs
      let m : Move := ⟨(Move.mk ((new o).run as) a).after.run bs, b⟩
      ∀ id, m.Answers id → m.released = (firstOffered? id since).toList := by
  intro h
  let o : ConnectOptions := { cleanSession := false, clientId := "c" }
  let left : Publish := ⟨7, "old", .exactlyOnce, false, false, .empty⟩
  let new : Publish := ⟨7, "new", .exactlyOnce, false, false, .empty⟩
  let as : List Action :=
    [⟨.startConnect "", 0, none⟩, ⟨.report 1 (.opened 0), 0, none⟩,
      ⟨.report 1 (.received (.connack ⟨true, .accepted⟩)), 0, none⟩,
      ⟨.report 1 (.received (.publish left)), 0, none⟩, ⟨.report 1 .closed, 0, none⟩,
      ⟨.startConnect "", 0, none⟩, ⟨.report 2 (.opened 1), 0, none⟩]
  let a : Action := ⟨.report 2 (.received (.connack ⟨false, .accepted⟩)), 0, none⟩
  let bs : List Action := [⟨.report 2 (.received (.publish new)), 0, none⟩]
  let b : Action := ⟨.report 2 (.received (.pubrel 7)), 0, none⟩
  let s := (Session.new o).run as
  let since := (Move.mk s a).after.moves bs
  let m : Move := ⟨(Move.mk s a).after.run bs, b⟩
  have hanew : s.attempt = 2 ∧ s.status = .connecting := by
    simp only [s, o, as, left]
    decide +kernel
  have hanswers : m.accepted? = some (.pubrel 7) ∧ m.result = .ok .done := by
    simp only [m, s, o, as, a, bs, b, left, new]
    decide +kernel
  have hleft : m.released = [left] := by
    simp only [m, s, o, as, a, bs, b, left, new]
    decide +kernel
  have hnew : firstOffered? 7 since = some new := by
    simp only [since, s, o, as, a, bs, left, new]
    decide +kernel
  have heq : m.released = (firstOffered? 7 since).toList :=
    h o as a bs b rfl ⟨⟨false, .accepted⟩, by rw [hanew.1], hanew.2, rfl, rfl⟩ 7 hanswers
  rw [hleft, hnew] at heq
  simp [left, new] at heq

/-- A session that outlives its connections keeps what it holds when the server accepts a connection
and knows of no session. What a release delivers then has come in on the session that the server
knows, unless a message was left over under its identifier. One that was is delivered at the next
release that is answered; from then on the identifier is as any other. -/
theorem left_over_released_first (o : ConnectOptions) (as : List Action) (a : Action)
    (hc : o.cleanSession = false) (h : (Move.mk ((new o).run as) a).BeginsAnew)
    (bs : List Action) (b : Action) :
    let s := (new o).run as
    let since := (Move.mk s a).after.moves bs
    let m : Move := ⟨(Move.mk s a).after.run bs, b⟩
    (∀ id, s.inflight.held[id]? = firstOffered? id ((new o).moves as)) ∧
    (Move.mk s a).after.inflight.held = s.inflight.held ∧
    (∀ message ∈ m.released, m.Answers message.packetId) ∧
    ∀ id, m.Answers id →
      (s.inflight.held[id]? = none → m.released = (firstOffered? id since).toList) ∧
      ∀ left, s.inflight.held[id]? = some left →
        (since.any (·.releases id) = false → m.released = [left]) ∧
        (since.any (·.releases id) = true → m.released = (firstOffered? id since).toList) := by
  intro s since m
  have hkept : (Move.mk s a).after.inflight = s.inflight := h.inflight_after
  have hafter : Holding (Move.mk s a).after :=
    (Move.mk s a).transition.holding ((holding_run o as).atTime _)
  have hoptions : (Move.mk s a).after.options.cleanSession = false := by
    rw [(Move.mk s a).transition.options_eq]
    change s.options.cleanSession = false
    rw [options_run, hc]
  have hm : Holding m.before :=
    run_induction hafter (fun m hm => m.transition.holding (hm.atTime _)) bs
  refine ⟨held_run o as, by rw [hkept], fun _ hin => m.answers_of_released hm hin, ?_⟩
  intro id hanswers
  have hheld := held_run_of_persistent hafter hoptions bs id
  rw [hkept] at hheld
  change m.before.inflight.held[id]? = _ at hheld
  rw [hanswers.released hm, hheld]
  refine ⟨fun hnone => ?_, fun left hleft => ⟨fun hfirst => ?_, fun hlater => ?_⟩⟩
  · rw [hnone, Option.none_or, ite_self]
  · rw [hfirst, if_neg Bool.false_ne_true, hleft]
    rfl
  · rw [hlater, if_pos rfl]

/-- One message is left over, another comes in on the new session; each is delivered at its own
release. -/
theorem left_over_released_first_of_two :
    let left : Publish := ⟨7, "old", .exactlyOnce, false, false, .empty⟩
    let other : Publish := ⟨8, "new", .exactlyOnce, false, false, .empty⟩
    let o : ConnectOptions := { cleanSession := false, clientId := "c" }
    let as : List Action :=
      [⟨.startConnect "", 0, none⟩, ⟨.report 1 (.opened 0), 0, none⟩,
        ⟨.report 1 (.received (.connack ⟨true, .accepted⟩)), 0, none⟩,
        ⟨.report 1 (.received (.publish left)), 0, none⟩, ⟨.report 1 .closed, 0, none⟩,
        ⟨.startConnect "", 0, none⟩, ⟨.report 2 (.opened 1), 0, none⟩]
    let a : Action := ⟨.report 2 (.received (.connack ⟨false, .accepted⟩)), 0, none⟩
    let bs : List Action := [⟨.report 2 (.received (.publish other)), 0, none⟩]
    let release (id : UInt16) : Move :=
      ⟨(Move.mk ((new o).run as) a).after.run bs, ⟨.report 2 (.received (.pubrel id)), 0, none⟩⟩
    (Move.mk ((new o).run as) a).BeginsAnew ∧ (release 7).released = [left] ∧
      (release 8).released = [other] := by
  intro left other o as a bs release
  have hanew : ((new o).run as).attempt = 2 ∧ ((new o).run as).status = .connecting := by
    simp only [o, as, left]
    decide +kernel
  have hbegins : (Move.mk ((new o).run as) a).BeginsAnew :=
    ⟨⟨false, .accepted⟩, by rw [hanew.1], hanew.2, rfl, rfl⟩
  have hheld : ((new o).run as).inflight.held[(7 : UInt16)]? = some left ∧
      ((new o).run as).inflight.held[(8 : UInt16)]? = none := by
    simp only [o, as, left]
    decide +kernel
  have hanswers₇ : (release 7).accepted? = some (.pubrel 7) ∧ (release 7).result = .ok .done := by
    simp only [release, o, as, a, bs, left, other]
    decide +kernel
  have hanswers₈ : (release 8).accepted? = some (.pubrel 8) ∧ (release 8).result = .ok .done := by
    simp only [release, o, as, a, bs, left, other]
    decide +kernel
  have hsince : ((Move.mk ((new o).run as) a).after.moves bs).any (·.releases 7) = false ∧
      firstOffered? 8 ((Move.mk ((new o).run as) a).after.moves bs) = some other := by
    simp only [o, as, a, bs, left, other]
    decide +kernel
  have hdelivers (id : UInt16) := (left_over_released_first o as a rfl hbegins bs
    ⟨.report 2 (.received (.pubrel id)), 0, none⟩).2.2.2 id
  refine ⟨hbegins, ?_, ?_⟩
  · exact ((hdelivers 7 hanswers₇).2 left hheld.1).1 hsince.1
  · refine ((hdelivers 8 hanswers₈).1 hheld.2).trans ?_
    rw [hsince.2]
    rfl

end Mqtt.Session
