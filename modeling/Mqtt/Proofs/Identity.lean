import Mqtt.Proofs.Attempts
import Mqtt.Proofs.ExactlyOnce

/-!
# One identity for all attempts

A client identifier is generated when an attempt begins and none is there, which only the first one
finds. So a session has one identity from then on, and every CONNECT of its life is the same.
-/

namespace Mqtt.Session

def Unnamed (s : Session) : Prop := s.clientId = "" ∧ s.options.generateClientId = true

def Move.renames (m : Move) : Bool := m.after.clientId ≠ m.before.clientId

/-! ### One step -/

section Rules

variable {s : Session} {fault : Option Error} {input : Input} {y : Yield}

theorem Writes.clientId_eq {u v : Session} {packet : Packet} {events : List Event}
    {output : Output} (h : Writes s input packet u v events output) :
    u.clientId = s.clientId ∧ v.clientId = s.clientId := by
  cases h with
  | pubrec _ _ _ _ hu =>
    subst hu
    exact ⟨rfl, rfl⟩
  | _ => exact ⟨rfl, rfl⟩

theorem Transition.clientId_eq_or (h : Transition s fault input y) :
    y.session.clientId = s.clientId ∧ (s.Unnamed → y.session.attempt = s.attempt) ∨
      s.Unnamed ∧ input = .startConnect y.session.clientId ∧
        y.result = .ok (.attempt (s.attempt + 1)) := by
  cases h with
  | began generated _ clientId hc =>
    by_cases hn : (s.clientId.isEmpty && s.options.generateClientId) = true
    · rw [if_pos hn] at hc
      subst hc
      rw [Bool.and_eq_true, String.isEmpty_iff] at hn
      exact .inr ⟨hn, rfl, rfl⟩
    · rw [if_neg hn] at hc
      refine .inl ⟨hc, fun hu => absurd ?_ hn⟩
      rw [Bool.and_eq_true, String.isEmpty_iff]
      exact hu
  | wrote hw _ _ => exact .inl ⟨hw.clientId_eq.2, fun _ => hw.frame.2.2.2⟩
  | writeFailed hw _ => exact .inl ⟨hw.clientId_eq.1, fun _ => hw.frame.1.2.2⟩
  | idle _ | discarded _ _ _ | failed _ _ | closed _ | accepted _ _ _ | refused _ _ _
  | delivered _ _ _ | completed _ _ _ _ _ _ _ | ponged _ | exhausted _ _ _ _ _ _
  | disconnected _ => exact .inl ⟨rfl, fun _ => rfl⟩

end Rules

namespace Move

variable {m : Move}

theorem renames_iff : m.renames = true ↔ m.after.clientId ≠ m.before.clientId := decide_eq_true_iff

theorem options_after (m : Move) : m.after.options = m.before.options := m.transition.options_eq

theorem of_renames (h : m.renames = true) :
    m.before.Unnamed ∧ m.action.input = .startConnect m.after.clientId ∧
      m.result = .ok (.attempt (m.before.attempt + 1)) := by
  rcases m.transition.clientId_eq_or with ⟨heq, -⟩ | hnamed
  · exact absurd heq (renames_iff.mp h)
  · exact hnamed

theorem clientId_after (h : ¬m.before.Unnamed) : m.after.clientId = m.before.clientId := by
  by_contra hne
  exact h (of_renames (renames_iff.mpr hne)).1

theorem named_after (h : ¬m.before.Unnamed) : ¬m.after.Unnamed := by
  rw [Unnamed, clientId_after h, m.options_after]
  exact h

theorem named_of_renames (h : m.renames = true) : ¬m.after.Unnamed := by
  intro hu
  apply renames_iff.mp h
  rw [hu.1, (of_renames h).1.1]

end Move

/-! ### Runs -/

theorem clientId_run_of_named {s : Session} (h : ¬s.Unnamed) (as : List Action) :
    (s.run as).clientId = s.clientId :=
  (run_induction (P := fun t => ¬t.Unnamed ∧ t.clientId = s.clientId) ⟨h, rfl⟩
    (fun _ hm => ⟨Move.named_after hm.1, (Move.clientId_after hm.1).trans hm.2⟩) as).2

theorem countP_renames_of_named {s : Session} (h : ¬s.Unnamed) (as : List Action) :
    (s.moves as).countP Move.renames = 0 := by
  induction as generalizing s with
  | nil => rfl
  | cons a as ih =>
    have hr : ¬(Move.mk s a).renames = true := fun hr => h (Move.of_renames hr).1
    rw [moves_cons, List.countP_cons_of_neg hr]
    exact ih (Move.named_after (m := ⟨s, a⟩) h)

theorem countP_renames_le (s : Session) (as : List Action) :
    (s.moves as).countP Move.renames ≤ 1 := by
  induction as generalizing s with
  | nil => exact Nat.zero_le 1
  | cons a as ih =>
    rw [moves_cons]
    by_cases hr : (Move.mk s a).renames = true
    · rw [List.countP_cons_of_pos hr, countP_renames_of_named (Move.named_of_renames hr) as]
    · rw [List.countP_cons_of_neg hr]
      exact ih _

/-- As long as what is generated is not empty, a session is unnamed before its first attempt at
most. -/
theorem attempt_eq_zero_of_unnamed {o : ConnectOptions} {as : List Action}
    (hg : ∀ a ∈ as, a.input ≠ .startConnect "") (h : ((new o).run as).Unnamed) :
    ((new o).run as).attempt = 0 := by
  induction as using List.reverseRecOn with
  | nil => rfl
  | append_singleton as a ih =>
    rw [run_concat] at h ⊢
    rcases (Move.mk ((new o).run as) a).transition.clientId_eq_or with ⟨hid, ha⟩ | ⟨-, hin, -⟩
    · have hid' : (Move.mk ((new o).run as) a).after.clientId = ((new o).run as).clientId := hid
      have hu : ((new o).run as).Unnamed := by
        rw [Unnamed, hid', Move.options_after] at h
        exact h
      exact (ha hu).trans (ih (fun b hb => hg b (List.mem_append_left _ hb)) hu)
    · have hempty : a.input = .startConnect "" := hin.trans (congrArg Input.startConnect h.1)
      exact absurd hempty (hg a (List.mem_append_right _ (List.mem_singleton_self a)))

theorem named_of_status {o : ConnectOptions} {as : List Action}
    (hg : ∀ a ∈ as, a.input ≠ .startConnect "") (hs : ((new o).run as).status ≠ .disconnected) :
    ¬((new o).run as).Unnamed := by
  intro hu
  have hpos := ((lives_run o as).begun hs).1
  rw [attempt_eq_zero_of_unnamed hg hu] at hpos
  cases hpos

theorem begun_of_renames {o : ConnectOptions} {as : List Action}
    (hg : ∀ a ∈ as, a.input ≠ .startConnect "") {m : Move} (hb : m.before = (new o).run as)
    (h : m.renames = true) : begun ((new o).moves as) = [] ∧ m.result = .ok (.attempt 1) := by
  obtain ⟨hu, -, hr⟩ := Move.of_renames h
  have hzero : m.before.attempt = 0 := by
    rw [hb] at hu ⊢
    exact attempt_eq_zero_of_unnamed hg hu
  refine ⟨?_, by rw [hr, hzero]⟩
  rw [List.eq_nil_iff_forall_not_mem]
  intro k hk
  obtain ⟨hpos, hle⟩ := mem_begun_run hk
  rw [hb] at hzero
  omega

/-- A CONNECT is made of the options and of the client identifier that there is. -/
theorem Move.of_connect {m : Move} {x : Io} {packet : Connect} (hx : x ∈ m.io)
    (ha : x.attempted? = some (.connect packet)) :
    m.before.status = .connecting ∧
      packet = m.before.options.connectPacket m.before.clientId := by
  rcases m.transition.attempted hx ha with ⟨u, v, events, output, hw, -, -⟩ | hd
  · rcases hw.connect_or_talk with ⟨_, _, hs, hp, _⟩ | ⟨_, _, hp, _⟩
    · exact ⟨hs, Packet.connect.inj hp⟩
    · cases hp
  · cases hd

theorem clientId_of_connect {o : ConnectOptions} {as : List Action}
    (hg : ∀ a ∈ as, a.input ≠ .startConnect "") {m : Move} (hm : m ∈ (new o).moves as) {x : Io}
    {packet : Connect} (hx : x ∈ m.io) (ha : x.attempted? = some (.connect packet)) :
    m.before.clientId = ((new o).run as).clientId ∧
      packet = o.connectPacket ((new o).run as).clientId := by
  obtain ⟨bs, cs, rfl, hb⟩ := of_mem_moves hm
  obtain ⟨hs, hp⟩ := Move.of_connect hx ha
  have hnamed : ¬((new o).run bs).Unnamed := by
    apply named_of_status fun a hin => hg a (List.mem_append_left _ hin)
    rw [← hb, hs]
    decide
  have hfinal : m.before.clientId = ((new o).run (bs ++ m.action :: cs)).clientId := by
    rw [run_append, clientId_run_of_named hnamed, hb]
  refine ⟨hfinal, ?_⟩
  rw [hp, hfinal, hb, options_run]

/-- In every run in which no empty client identifier is generated, the identifier changes once at
most: from the empty one to the one that is generated, when the first attempt begins, and only if it
is to be generated. An operation that fails does not change it. Every CONNECT that any transport is
handed, on whichever attempt, is made of the options and of the identifier that there is in the
end. -/
theorem one_identity (o : ConnectOptions) (as : List Action)
    (hg : ∀ a ∈ as, a.input ≠ .startConnect "") :
    let ms := (new o).moves as
    let final := ((new o).run as).clientId
    ms.countP Move.renames ≤ 1 ∧
    (∀ earlier m later, ms = earlier ++ m :: later → m.renames = true →
      begun earlier = [] ∧ m.result = .ok (.attempt 1) ∧ m.before.clientId = "" ∧
        o.generateClientId = true ∧ m.action.input = .startConnect m.after.clientId) ∧
    (∀ m ∈ ms, ∀ e, m.result = .error e → m.after.clientId = m.before.clientId) ∧
    ∀ m ∈ ms, ∀ x ∈ m.io, ∀ packet, x.attempted? = some (.connect packet) →
      m.before.clientId = final ∧ packet = o.connectPacket final ∧
      packet.cleanSession = o.cleanSession ∧ packet.keepAlive = o.keepAlive ∧
      packet.will = o.will ∧ packet.username = o.username ∧ packet.password = o.password := by
  intro ms final
  refine ⟨countP_renames_le _ as, ?_, ?_, ?_⟩
  · intro earlier m later heq hr
    obtain ⟨bs, cs, rfl, hb, rfl, -⟩ := later_eq_moves heq
    obtain ⟨hbegun, hresult⟩ :=
      begun_of_renames (fun a ha => hg a (List.mem_append_left _ ha)) hb hr
    obtain ⟨⟨hempty, hgenerate⟩, hin, -⟩ := Move.of_renames hr
    rw [hb, options_run] at hgenerate
    exact ⟨hbegun, hresult, hempty, hgenerate, hin⟩
  · intro m _ e he
    by_contra hne
    have hok := (Move.of_renames (Move.renames_iff.mpr hne)).2.2
    rw [he] at hok
    cases hok
  · intro m hm x hx packet ha
    obtain ⟨hid, rfl⟩ := clientId_of_connect hg hm hx ha
    exact ⟨hid, rfl, rfl, rfl, rfl, rfl, rfl⟩

/-- The identifier of a first attempt, whose CONNECT is refused, is the one of the second, too. -/
theorem one_identity_after_refusal :
    let o : ConnectOptions := {}
    let as : List Action :=
      [⟨.startConnect "u", 0, none⟩, ⟨.report 1 (.opened 0), 0, some (.transport (.text ""))⟩,
        ⟨.startConnect "v", 0, none⟩, ⟨.report 2 (.opened 1), 0, none⟩]
    let ms := (new o).moves as
    (∀ a ∈ as, a.input ≠ .startConnect "") ∧
    (ms.flatMap Move.io).countP (·.attempted?.isSome) = 2 ∧ ms.countP Move.renames ≤ 1 ∧
    ∀ m ∈ ms, ∀ x ∈ m.io, ∀ packet, x.attempted? = some (.connect packet) →
      packet = o.connectPacket "u" := by
  intro o as ms
  have hg : ∀ a ∈ as, a.input ≠ .startConnect "" := by
    simp only [as]
    decide
  have hwrites : (ms.flatMap Move.io).countP (·.attempted?.isSome) = 2 := by
    simp only [ms, as, o]
    decide +kernel
  have hfinal : ((new o).run as).clientId = "u" := by
    simp only [as, o]
    decide +kernel
  obtain ⟨honce, -, -, hsame⟩ := one_identity o as hg
  refine ⟨hg, hwrites, honce, fun m hm x hx packet ha => ?_⟩
  rw [(hsame m hm x hx packet ha).2.1, hfinal]

end Mqtt.Session
