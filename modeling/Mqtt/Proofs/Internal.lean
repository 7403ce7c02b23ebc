import Mqtt.Proofs.Armed
import Mqtt.Proofs.Callers
import Mqtt.Proofs.Equipped
import Mqtt.Proofs.Superseded

/-!
# Internal errors are never met

A session is told of transports by reports, and does not record in its status whether it has one.
But where reports come from a network, it has one whenever it writes. So an error that is put down
to the client itself is returned by no operation and by no call, unless a transport returns it
first.
-/

namespace Mqtt

open Session

namespace Session

section Rules

variable {s : Session} {fault : Option Error} {input : Input} {y : Yield}

theorem Idle.ne_internal {result : Except Error Output} (h : Idle s input result)
    (detail : Detail) : result ≠ .error (.internalState detail) := by
  cases h with
  | rejected _ why _ =>
    cases why <;> simp [Rejection.error]
  | connectNotAllowed _ _ => simp [Error.connectNotAllowed]
  | notConnected _ _ _ _ => simp [Error.notConnected]
  | nothingToDisconnect _ _ => simp [Error.nothingToDisconnect]
  | staleReport _ _ _ _ | failedLate _ _ | closedLate _ | connackLate _ _ | outOfPlace _ _ _
  | neverFromServer _ _ | nothingPending _ _ _ _ | nothingToRelease _ _ _ | notDue _
  | nextService => simp

theorem Writes.transport_isSome {u v : Session} {packet : Packet} {events : List Event}
    {output : Output} (h : Writes s input packet u v events output) (he : s.Equipped) :
    u.transport.isSome := by
  rcases h.connect_or_talk with ⟨transport, -, -, -, rfl⟩ | ⟨-, hs, -, hu⟩
  · rfl
  · rw [hu]
    exact he hs

theorem Writes.transport_isSome_of_opened {u v : Session} {k : Nat} {transport : TransportId}
    {packet : Packet} {events : List Event} {output : Output}
    (h : Writes s (.report k (.opened transport)) packet u v events output) :
    u.transport.isSome := by
  cases h
  rfl

/-- An operation that hands its packets to transports returns no internal error of its own. -/
theorem Transition.ne_internal (h : Transition s fault input y)
    (hw : ∀ {u v packet events output}, Writes s input packet u v events output →
      u.transport.isSome)
    {detail : Detail} (hf : fault ≠ some (.internalState detail)) :
    y.result ≠ .error (.internalState detail) := by
  cases h with
  | idle hi => exact hi.ne_internal detail
  | writeFailed hwrites he =>
    rw [writeError, if_pos (hw hwrites)] at he
    rintro hr
    cases hr
    exact hf he
  | discarded _ _ _ => simp [Error.attemptCancelled]
  | exhausted _ _ _ _ _ _ => simp
  | wrote _ _ _ | began _ _ _ _ | failed _ _ | closed _ | accepted _ _ _ | refused _ _ _
  | delivered _ _ _ | completed _ _ _ _ _ _ _ | ponged _ | disconnected _ => simp

theorem Transition.granted_of_takesId {q : Request} {output : Output}
    (h : Transition s fault (.request q) y) (hq : q.takesId) (hr : y.result = .ok output) :
    ∃ id, output = .packetId (some id) := by
  cases h with
  | idle hi => cases hi <;> cases hr
  | wrote hw _ _ =>
    cases hr
    cases hw with
    | publishOnce _ id _ _ _ _ _ | publish _ id _ _ _ _ _ => exact ⟨id, rfl⟩
    | subscribe _ id _ _ _ _ | unsubscribe _ id _ _ _ _ => exact ⟨id, rfl⟩
    | ping _ => cases hq
  | writeFailed _ _ | exhausted _ _ _ _ _ _ => cases hr
  | disconnected _ => cases hq

end Rules

theorem Move.ne_internal {m : Move} (he : m.before.Equipped) {detail : Detail}
    (hf : m.action.fault ≠ some (.internalState detail)) :
    m.result ≠ .error (.internalState detail) :=
  m.transition.ne_internal (fun h => h.transport_isSome he) hf

theorem Move.told_ne_internal {m : Move} (he : m.before.Equipped) {detail : Detail}
    (hf : m.action.fault ≠ some (.internalState detail)) {q : Request}
    {result : Except Error Answer} (hq : m.answer? = some (q, result)) :
    result ≠ .error (.internalState detail) := by
  have hr := Move.ne_internal he hf
  unfold answer? at hq
  split at hq
  case h_2 => cases hq
  case h_1 p hin =>
    cases hq
    cases hm : m.result with
    | error e =>
      rw [hm] at hr
      unfold Request.told
      split <;> simpa [Except.map, Answer.ofPacketId] using hr
    | ok output =>
      unfold Request.told
      split
      · next ht =>
        obtain ⟨id, rfl⟩ := (m.transition_of hin).granted_of_takesId ht hm
        simp [Except.map, Output.granted?, Answer.ofPacketId]
      · simp [Except.map]

theorem equipped_of_mem_moves {o : ConnectOptions} {as : List Action}
    (h : Networked ((new o).moves as)) {m : Move} (hm : m ∈ (new o).moves as) :
    m.before.Equipped ∧ m.action ∈ as := by
  obtain ⟨bs, cs, has, hbefore⟩ := of_mem_moves hm
  have hbs : Networked ((new o).moves bs) := by
    refine h.of_earlier ?_
    rw [has]
    exact moves_prefix_moves _ (List.prefix_append bs _)
  refine ⟨?_, ?_⟩
  · rw [hbefore]
    exact transport_of_connected o bs hbs
  · rw [has]
    exact List.mem_append_right _ List.mem_cons_self

end Session

/-! ### Connect calls -/

namespace Round

theorem beginConnect_ne_internal (r : Round) (detail : Detail) :
    r.beginConnect.1 ≠ .error (.internalState detail) := by
  intro he
  have hr := r.result_beginConnect
  rw [he] at hr
  have ht := (Move.mk r.client.session ⟨.startConnect r.env.freshId, r.env.now, none⟩).transition
  exact ht.ne_internal (fun h => by cases h) nofun hr

theorem finishConnect_ne_internal {r : Round} {k : Nat} {t : TransportId} {detail : Detail}
    (hf : r.env.fault t ≠ some (.internalState detail)) :
    (r.finishConnect k (.ok t)).1 ≠ .error (.internalState detail) := by
  intro he
  have hr := r.result_finishConnect k t
  rw [he] at hr
  have ht := (Move.mk r.client.session
    ⟨.report k (.opened t), r.env.now, r.env.fault t⟩).transition
  exact ht.ne_internal (fun h => h.transport_isSome_of_opened) hf hr

end Round

/-! ### Scenes -/

namespace Scene

def answers (s : Scene) : List (Request × Except Error Answer) := s.past.flatMap Deed.answers

theorem occasion_mem_of_past {options : ClientOptions} {os : List Occasion} {d : Deed}
    (hd : d ∈ ((start options).run os).past) : d.occasion ∈ os := by
  induction os using List.reverseRecOn with
  | nil => cases hd
  | append_singleton os oc ih =>
    rw [run, List.foldl_append] at hd
    change d ∈ (((start options).run os).step oc).past at hd
    rw [List.mem_append, List.mem_singleton]
    by_cases ha : ((start options).run os).admits oc.activity
    · rw [step, if_pos ha] at hd
      rcases List.mem_append.mp hd with hd | hd
      · exact .inl (ih hd)
      · cases List.mem_singleton.mp hd
        exact .inr rfl
    · rw [step, if_neg ha] at hd
      exact .inl (ih hd)

theorem exists_asked (options : ClientOptions) (os : List Occasion) :
    let s := (start options).run os
    ∃ as, Traced options.connect s as ∧
      s.answers = ((new options.connect).moves as).filterMap Move.answer? ∧
      ∀ a ∈ as, ∃ oc ∈ os, oc.env.Gives a := by
  intro s
  induction os using List.reverseRecOn with
  | nil => exact ⟨[], traced_start options, rfl, by simp⟩
  | append_singleton os oc ih =>
    obtain ⟨as, h, hanswers, hgives⟩ := ih
    have hrun : s = ((start options).run os).step oc := by
      simp only [s, run, List.foldl_append]
      rfl
    clear_value s
    subst hrun
    generalize (start options).run os = s at h hanswers
    have hlater : ∀ a ∈ as, ∃ oc' ∈ os ++ [oc], oc'.env.Gives a := by
      intro a ha
      obtain ⟨oc', hoc, hg⟩ := hgives a ha
      exact ⟨oc', List.mem_append_left _ hoc, hg⟩
    by_cases ha : s.admits oc.activity
    · obtain ⟨bs, hb, hasks, hnew, htold⟩ := Deed.exists_asks ⟨s.client, oc⟩
      refine ⟨as ++ (s.asked oc ++ bs), h.step_of_asks ha hb hasks, ?_, ?_⟩
      · have hpast : (s.step oc).past = s.past ++ [⟨s.client, oc⟩] := by
          rw [step, if_pos ha]
        rw [answers, hpast, List.flatMap_append, List.flatMap_singleton, moves_append,
          List.filterMap_append, ← hanswers, ← h.session]
        exact congrArg (s.answers ++ ·) htold
      · intro a hmem
        rcases List.mem_append.mp hmem with hmem | hmem
        · exact hlater a hmem
        · exact ⟨oc, List.mem_append_right _ (List.mem_singleton_self _), hnew a hmem⟩
    · rw [step, if_neg ha]
      exact ⟨as, h, hanswers, hlater⟩

/-- Where reports come from a network, and transports return no internal error of their own: a
connection that is accepted has a transport and a last write, and after a connection there is no
transport; no write misses a transport; and no operation returns an internal error, nor does any
call of a client, whatever its application and its connections do. -/
theorem internal_errors_unreachable (options : ClientOptions) :
    (∀ as, let s := (new options.connect).run as
      let ms := (new options.connect).moves as
      Networked ms → (∀ a ∈ as, ∀ detail, a.fault ≠ some (.internalState detail)) →
        (s.status = .connected → s.transport.isSome ∧ s.keepAlive.lastWrite.isSome) ∧
        (s.status = .disconnected → s.transport = none) ∧
        ∀ m ∈ ms, m.reply.turn.missing = [] ∧
          ∀ detail, m.result ≠ .error (.internalState detail)) ∧
    ∀ os, let s := (start options).run os
      (∀ oc ∈ os, ∀ transport detail, oc.env.fault transport ≠ some (.internalState detail)) →
        (∀ answer ∈ s.answers, ∀ detail, answer.2 ≠ .error (.internalState detail)) ∧
        ∀ d ∈ s.past, ∀ detail,
          (d.occasion.activity = .beginConnect →
            d.start.beginConnect.1 ≠ .error (.internalState detail)) ∧
          ∀ k t, d.occasion.activity = .finishConnect k (.ok t) →
            (d.start.finishConnect k (.ok t)).1 ≠ .error (.internalState detail) := by
  refine ⟨?_, ?_⟩
  · intro as s ms hnet hfaults
    refine ⟨fun hs => ?_, fun hs => ?_, fun m hm => ?_⟩
    · have ht : s.transport.isSome := transport_of_connected options.connect as hnet hs
      exact ⟨ht, (armed_run options.connect as).lastWrite.trans ht⟩
    · by_contra ht
      exact (wired_run options.connect as hnet).status (Option.isSome_iff_ne_none.mpr ht) hs
    · obtain ⟨he, hin⟩ := equipped_of_mem_moves hnet hm
      exact ⟨missing_step he _ _ _, fun detail => Move.ne_internal he (hfaults _ hin detail)⟩
  · intro os s hfaults
    obtain ⟨as, h, hanswers, hgives⟩ := exists_asked options os
    refine ⟨?_, ?_⟩
    · rintro ⟨q, result⟩ hin detail
      rw [hanswers] at hin
      obtain ⟨m, hm, hq⟩ := List.mem_filterMap.mp hin
      obtain ⟨he, ha⟩ := equipped_of_mem_moves h.networked hm
      refine Move.told_ne_internal he (fun hf => ?_) hq
      obtain ⟨oc, hoc, hg⟩ := hgives _ ha
      obtain ⟨transport, hfault⟩ := hg _ hf
      exact hfaults oc hoc transport detail hfault
    · intro d hd detail
      exact ⟨fun _ => d.start.beginConnect_ne_internal detail, fun k t _ =>
        Round.finishConnect_ne_internal (hfaults _ (occasion_mem_of_past hd) t detail)⟩

/-- A publish on an accepted connection, which the transport refuses. -/
theorem internal_errors_unreachable_refused :
    let refusal : Error := .transport (.text "reset")
    let begins : Action := ⟨.startConnect "", 0, none⟩
    let opens : Action := ⟨.report 1 (.opened 0), 0, none⟩
    let accepts : Action := ⟨.report 1 (.received (.connack ⟨false, .accepted⟩)), 0, none⟩
    let publishes : Action :=
      ⟨.request (.publish ⟨0, "a", .atLeastOnce, false, false, .empty⟩), 0, some refusal⟩
    let as := [begins, opens, accepts, publishes]
    let env : Env := ⟨0, "", fun _ => some refusal⟩
    let os : List Occasion := [⟨.beginConnect, env⟩, ⟨.finishConnect 1 (.ok 0), env⟩]
    Networked ((new {}).moves as) ∧ ((new {}).run as).transport = none ∧
      (∀ m ∈ (new {}).moves as, ∀ detail, m.result ≠ .error (.internalState detail)) ∧
      ∀ answer ∈ ((start { host := "broker" }).run os).answers,
        ∀ detail, answer.2 ≠ .error (.internalState detail) := by
  intro refusal begins opens accepts publishes as env os
  have hbegun : ∀ as, 1 ∈ begun ((new {}).moves (begins :: as)) := fun as =>
    List.mem_filterMap.mpr ⟨⟨new {}, begins⟩, List.mem_cons_self, rfl⟩
  have hopened : ∀ as, (1, 0) ∈ openings ((new {}).moves (begins :: opens :: as)) := fun as =>
    List.mem_filterMap.mpr
      ⟨⟨_, opens⟩, List.mem_cons_of_mem _ List.mem_cons_self, rfl⟩
  have h₁ : Networked ((new {}).moves [begins]) :=
    (networked_moves_concat (new {}) [] begins).mpr ⟨networked_nil, trivial⟩
  have h₂ : Networked ((new {}).moves [begins, opens]) :=
    (networked_moves_concat (new {}) [begins] opens).mpr
      ⟨h₁, hbegun [], List.not_mem_nil, fun _ => List.not_mem_nil⟩
  have h₃ : Networked ((new {}).moves [begins, opens, accepts]) :=
    (networked_moves_concat (new {}) [begins, opens] accepts).mpr ⟨h₂, hbegun _, 0, hopened _⟩
  have h : Networked ((new {}).moves as) :=
    (networked_moves_concat (new {}) [begins, opens, accepts] publishes).mpr ⟨h₃, trivial⟩
  have hover : ((new {}).run as).status = .disconnected := by
    simp only [as, begins, opens, accepts, publishes, refusal]
    decide +kernel
  have hfaults : ∀ a ∈ as, ∀ detail, a.fault ≠ some (.internalState detail) := by
    simp [as, begins, opens, accepts, publishes, refusal]
  have henv : ∀ oc ∈ os, ∀ (transport : TransportId) detail,
      oc.env.fault transport ≠ some (.internalState detail) := by
    simp [os, env, refusal]
  obtain ⟨hsession, hscene⟩ := internal_errors_unreachable { host := "broker" }
  obtain ⟨-, hgone, hmoves⟩ := hsession as h hfaults
  exact ⟨h, hgone hover, fun m hm => (hmoves m hm).2, (hscene os henv).1⟩

end Scene

end Mqtt
