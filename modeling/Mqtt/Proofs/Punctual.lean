import Mqtt.Client.Vigil
import Mqtt.Proofs.Armed
import Mqtt.Proofs.ExactlyOnce
import Mqtt.Proofs.Superseded

/-!
# No delivery oversleeps

A delivery arms its timer once and then rests, while others move the time of the next ping. They can
only put it off, as long as the connection lasts: it follows the last write, and writes do not lie
in the future. And what makes the connection accepted, so that there is a next ping at all, is a
packet that the delivery itself takes in, after which it looks again.
-/

namespace Mqtt

theorem KeepAlive.nextPing_le {k k' : KeepAlive} (hi : k'.interval = k.interval)
    (hw : ∀ t, k.lastWrite = some t → ∃ t', k'.lastWrite = some t' ∧ t ≤ t') {next : Int}
    (h : k.nextPing = some next) : ∃ next', k'.nextPing = some next' ∧ next ≤ next' := by
  unfold nextPing at h
  split at h
  case h_1 seconds last hseconds hlast =>
    cases h
    obtain ⟨last', hlast', hle⟩ := hw last hlast
    refine ⟨last' + seconds * microsPerSecond, ?_, by omega⟩
    rw [nextPing, hi, hseconds, hlast']
  case h_2 => cases h

namespace Session

/-! ### The next ping is only put off -/

def Recent (s : Session) (clock : Int) : Prop := ∀ t, s.keepAlive.lastWrite = some t → t ≤ clock

theorem Recent.mono {s : Session} {clock clock' : Int} (h : s.Recent clock)
    (hle : clock ≤ clock') : s.Recent clock' := fun t ht => (h t ht).trans hle

section Rules

variable {s : Session} {fault : Option Error} {input : Input} {y : Yield}

theorem Writes.now_eq {u v : Session} {packet : Packet} {events : List Event} {output : Output}
    (h : Writes s input packet u v events output) : v.now = s.now := by
  cases h with
  | pubrec _ _ _ _ hu =>
    subst hu
    rfl
  | _ => rfl

theorem Transition.keepAlive_eq (h : Transition s fault input y) :
    y.session.keepAlive = s.keepAlive ∨ y.session.keepAlive = s.keepAlive.onWrite s.now ∨
      y.session.keepAlive = s.keepAlive.reset ∧ y.session.status = .disconnected := by
  cases h with
  | @wrote _ _ u v _ _ _ hw _ _ =>
    refine .inr (.inl ?_)
    change v.keepAlive.onWrite v.now = _
    rw [hw.keepAlive_eq.2, hw.now_eq]
  | @writeFailed _ _ u _ _ _ _ hw _ =>
    refine .inr (.inr ⟨?_, rfl⟩)
    change u.keepAlive.reset = _
    rw [hw.keepAlive_eq.1]
  | closed _ | refused _ _ _ | disconnected _ => exact .inr (.inr ⟨rfl, rfl⟩)
  | idle _ | discarded _ _ _ | began _ _ _ _ | failed _ _ | accepted _ _ _ | delivered _ _ _
  | completed _ _ _ _ _ _ _ | ponged _ | exhausted _ _ _ _ _ _ => exact .inl rfl

theorem Transition.lastWrite_eq (h : Transition s fault input y) {t : Int}
    (ht : y.session.keepAlive.lastWrite = some t) : s.keepAlive.lastWrite = some t ∨ t = s.now := by
  rcases h.keepAlive_eq with hk | hk | ⟨hk, -⟩ <;> rw [hk] at ht
  · exact .inl ht
  · cases ht
    exact .inr rfl
  · cases ht

/-- While a connection lasts, the next ping is only put off. -/
theorem Transition.nextPing_le (h : Transition s fault input y) (hs : s.Recent s.now)
    (hy : y.session.status = .connected) {next : Int} (hn : s.keepAlive.nextPing = some next) :
    ∃ next', y.session.keepAlive.nextPing = some next' ∧ next ≤ next' := by
  rcases h.keepAlive_eq with hk | hk | ⟨-, hd⟩
  · exact ⟨next, by rw [hk, hn], le_refl _⟩
  · have hw : ∀ t, s.keepAlive.lastWrite = some t →
        ∃ t', (s.keepAlive.onWrite s.now).lastWrite = some t' ∧ t ≤ t' :=
      fun t ht => ⟨s.now, rfl, hs t ht⟩
    rw [hk]
    exact KeepAlive.nextPing_le (KeepAlive.interval_onWrite _ _) hw hn
  · simp [hd] at hy

end Rules

/-- Whether an action reports an answer to the CONNECT of an attempt. -/
def Action.Answers (a : Action) (k : Nat) : Prop :=
  ∃ connack, a.input = .report k (.received (.connack connack))

theorem lastWrite_run {clock : Int} {as : List Action} (hnow : ∀ a ∈ as, a.now = clock)
    {s : Session} {t : Int} (ht : (s.run as).keepAlive.lastWrite = some t) :
    s.keepAlive.lastWrite = some t ∨ t = clock := by
  induction as generalizing s with
  | nil => exact .inl ht
  | cons a as ih =>
    rcases ih (fun b hb => hnow b (List.mem_cons_of_mem a hb)) ht with hafter | heq
    · refine ((Move.mk s a).transition.lastWrite_eq hafter).imp_right fun heq => heq.trans ?_
      exact hnow a List.mem_cons_self
    · exact .inr heq

/-- Actions at one time, none of which answers the CONNECT of an attempt, have not made it
accepted, and have not brought its next ping forward. -/
theorem still_connected {k : Nat} {clock : Int} {as : List Action}
    (hnow : ∀ a ∈ as, a.now = clock) (hno : ∀ a ∈ as, ¬a.Answers k) {s : Session}
    (hs : s.Recent clock) (hk : (s.run as).attempt = k) (hc : (s.run as).status = .connected) :
    s.attempt = k ∧ s.status = .connected ∧ ∀ next, s.keepAlive.nextPing = some next →
      ∃ next', (s.run as).keepAlive.nextPing = some next' ∧ next ≤ next' := by
  induction as generalizing s with
  | nil => exact ⟨hk, hc, fun next hn => ⟨next, hn, le_refl _⟩⟩
  | cons a as ih =>
    have ha : a.now = clock := hnow a List.mem_cons_self
    have ht := (Move.mk s a).transition
    have hrecent : (Move.mk s a).after.Recent clock := fun t hw =>
      (ht.lastWrite_eq hw).elim (hs t) fun heq => (heq.trans ha).le
    obtain ⟨hk', hc', hle⟩ := ih (fun b hb => hnow b (List.mem_cons_of_mem a hb))
      (fun b hb => hno b (List.mem_cons_of_mem a hb)) hrecent hk hc
    obtain ⟨hattempt, hst⟩ := ht.welcomed hc'
    have hsk : s.attempt = k := hattempt.symm.trans hk'
    have hst' : s.status = .connected := by
      rcases hst with hst | ⟨connack, hin, -⟩
      · exact hst
      · refine absurd ⟨connack, ?_⟩ (hno a List.mem_cons_self)
        rw [← hsk]
        exact hin
    refine ⟨hsk, hst', fun next hn => ?_⟩
    have hatNow : (Move.mk s a).start.Recent (Move.mk s a).start.now := by
      intro t ht
      rw [show (Move.mk s a).start.now = clock from ha]
      exact hs t ht
    obtain ⟨next', hn', hle'⟩ := ht.nextPing_le hatNow hc' hn
    obtain ⟨next'', hn'', hle''⟩ := hle next' hn'
    exact ⟨next'', hn'', hle'.trans hle''⟩

theorem recent_run {clock : Int} {as : List Action} (hnow : ∀ a ∈ as, a.now = clock) {s : Session}
    (hs : s.Recent clock) : (s.run as).Recent clock := fun t ht =>
  (lastWrite_run hnow ht).elim (hs t) le_of_eq

end Session

open Session

/-! ### Scenes -/

namespace Scene

theorem nextPing_of_connected (options : ClientOptions) (os : List Occasion)
    (hauto : options.connect.autoKeepAlive) (hk : options.connect.keepAlive ≠ 0)
    (hc : ((start options).run os).client.session.status = .connected) :
    ∃ next, ((start options).run os).client.session.keepAlive.nextPing = some next := by
  obtain ⟨as, h⟩ := traced_run options os
  rw [h.session] at hc ⊢
  have harmed := armed_run options.connect as
  have hlast : ((new options.connect).run as).keepAlive.lastWrite.isSome := by
    rw [harmed.lastWrite]
    exact transport_of_connected options.connect as h.networked hc
  have hpos : (0 : UInt16) < options.connect.keepAlive := UInt16.pos_iff_ne_zero.mpr hk
  have hinterval : ((new options.connect).run as).keepAlive.interval =
      some options.connect.keepAlive.toNat := by
    rw [harmed.interval, options_run]
    simp [new, KeepAlive.ofSeconds, hauto, hpos]
  obtain ⟨last, hlast'⟩ := Option.isSome_iff_exists.mp hlast
  exact ⟨_, by rw [KeepAlive.nextPing, hinterval, hlast']⟩

end Scene

namespace Activity

theorem eq_signal_of_answers {a : Activity} {r : Round} {bs : List Action} (hb : Requests bs)
    {k : Nat} {x : Action} (hx : x ∈ (a.action? r).toList ++ bs) {connack : Connack}
    (h : x.input = .report k (.received (.connack connack))) :
    a = .signal k (.packet (.connack connack)) := by
  rcases List.mem_append.mp hx with hx | hx
  · rw [Option.mem_toList] at hx
    cases a with
    | call c =>
      obtain ⟨q, -, rfl⟩ := Option.map_eq_some_iff.mp hx
      cases h
    | beginConnect =>
      cases hx
      cases h
    | finishConnect j outcome =>
      cases outcome <;> cases hx <;> cases h
    | look j | timer j =>
      simp only [action?] at hx
      split at hx
      · cases hx
        cases h
      · cases hx
    | signal j received =>
      cases received with
      | packet packet =>
        cases hx
        cases h
        rfl
      | closed =>
        cases hx
        cases h
  · obtain ⟨q, hq⟩ := hb x hx
    rw [hq] at h
    cases h

end Activity

theorem Round.look_eq {r : Round} {k : Nat} (h : r.client.session.isCurrent k = true) :
    (r.look k).1 = some (if r.client.session.status = .connected
      then r.client.session.keepAlive.nextPing else none) := by
  have h' : (r.note .deliveryLoop).client.session.isCurrent k = true := h
  simp only [look, if_pos h']
  rfl

theorem Round.look_of_outdated {r : Round} {k : Nat} (h : r.client.session.isCurrent k = false)
    (hq : r.client.queue = []) :
    (r.look k).1 = none ∧ (r.look k).2.client = r.client ∧ (r.look k).2.journal = r.journal ∧
      (r.look k).2.effects = r.effects := by
  have h' : ¬(r.note .deliveryLoop).client.session.isCurrent k = true := by
    rw [show (r.note .deliveryLoop).client.session.isCurrent k = false from h]
    exact Bool.false_ne_true
  have hsettle : (r.note .deliveryLoop).settle = r.note .deliveryLoop := by
    have hq' : (r.note .deliveryLoop).client.queue = [] := hq
    simp [settle, hq']
  simp only [look, if_neg h', hsettle, true_and]
  exact ⟨rfl, rfl, rfl⟩

/-! ### Vigils -/

/-- Where a delivery may stand when the next ping of its connection is due: a timer that it rests
with goes off by then, and one that does not has gone off already. -/
def Post.Timely (clock next : Int) : Post → Prop
  | looking => True
  | polling timer => ∃ deadline, timer = some deadline ∧ (deadline ≤ next ∨ deadline ≤ clock)
  | parked timer => ∃ deadline, timer = some deadline ∧ deadline ≤ next

theorem Post.Timely.mono {clock clock' next next' : Int} (hc : clock ≤ clock')
    (hn : next ≤ next') {p : Post} (h : p.Timely clock next) : p.Timely clock' next' := by
  cases p with
  | looking => trivial
  | polling timer =>
    obtain ⟨deadline, ht, hle | hle⟩ := h
    · exact ⟨deadline, ht, .inl (hle.trans hn)⟩
    · exact ⟨deadline, ht, .inr (hle.trans hc)⟩
  | parked timer =>
    obtain ⟨deadline, ht, hle⟩ := h
    exact ⟨deadline, ht, hle.trans hn⟩

namespace Vigil

variable {v : Vigil}

@[simp] theorem session_round (freshId : String) (fault : TransportId → Option Error) :
    (v.round freshId fault).client.session = v.session := rfl

@[simp] theorem post_setPost_self (k : Nat) (p : Post) : (v.setPost k p).post k = p := by
  simp [setPost]

theorem post_setPost_of_ne {j k : Nat} (p : Post) (h : j ≠ k) :
    (v.setPost k p).post j = v.post j := by
  simp [setPost, h]

theorem clock_leave (r : Round) (a : Activity) : (v.leave r a).clock = v.clock := by
  cases a with
  | look k =>
    simp only [leave]
    split <;> rfl
  | _ => rfl

theorem post_leave (r : Round) (a : Activity) (k : Nat) :
    (v.leave r a).post k = .looking ∨
      (v.leave r a).post k = v.post k ∧ (∀ received, a ≠ .signal k received) ∨
      ∃ due, a = .look k ∧ (r.look k).1 = some due ∧
        (v.leave r a).post k = .polling (due.map (max v.clock)) := by
  have hother : ∀ j p, (v.setPost j p).post k = p ∨ (v.setPost j p).post k = v.post k ∧ k ≠ j := by
    intro j p
    by_cases hj : k = j
    · exact .inl (by rw [hj, post_setPost_self])
    · exact .inr ⟨post_setPost_of_ne p hj, hj⟩
  cases a with
  | call _ | beginConnect => exact .inr (.inl ⟨rfl, nofun⟩)
  | timer j | finishConnect j _ =>
    rcases hother j .looking with hp | ⟨hp, -⟩
    · exact .inl hp
    · exact .inr (.inl ⟨hp, nofun⟩)
  | signal j received =>
    rcases hother j .looking with hp | ⟨hp, hj⟩
    · exact .inl hp
    · refine .inr (.inl ⟨hp, fun received' h => ?_⟩)
      cases h
      exact hj rfl
  | look j =>
    simp only [leave]
    split
    case h_1 due hdue =>
      by_cases hj : k = j
      · subst hj
        exact .inr (.inr ⟨due, rfl, hdue, post_setPost_self k _⟩)
      · exact .inr (.inl ⟨post_setPost_of_ne _ hj, nofun⟩)
    case h_2 => exact .inr (.inl ⟨rfl, nofun⟩)

theorem step_act {a : Activity} {freshId : String} {fault : TransportId → Option Error}
    (h : (v.scene.admits a && v.awaits a) = true) :
    v.step (.act a freshId fault) = { v.leave (v.round freshId fault) a with
      scene := v.scene.step ⟨a, v.env freshId fault⟩ } := by
  simp only [step, if_pos h]

theorem session_step_act {a : Activity} {freshId : String} {fault : TransportId → Option Error}
    (h : (v.scene.admits a && v.awaits a) = true) :
    (v.step (.act a freshId fault)).session =
      (a.perform (v.round freshId fault)).client.session := by
  have ha : v.scene.admits a = true := (Bool.and_eq_true_iff.mp h).1
  rw [step_act h]
  simp only [session, Scene.step, if_pos ha]
  rfl

theorem run_concat (v : Vigil) (es : List Step) (e : Step) :
    v.run (es ++ [e]) = (v.run es).step e := by
  simp [run]

theorem scene_run (options : ClientOptions) (clock : Int) (es : List Step) :
    ∃ os, ((start options clock).run es).scene = (Scene.start options).run os := by
  induction es using List.reverseRecOn with
  | nil => exact ⟨[], rfl⟩
  | append_singleton es e ih =>
    obtain ⟨os, hos⟩ := ih
    rw [run_concat]
    generalize (start options clock).run es = v at hos ⊢
    cases e with
    | advance time =>
      refine ⟨os, ?_⟩
      rw [← hos]
      simp only [step]
      split <;> rfl
    | park k =>
      refine ⟨os, ?_⟩
      rw [← hos]
      simp only [step]
      split
      · split <;> rfl
      · rfl
      · rfl
    | act a freshId fault =>
      by_cases h : (v.scene.admits a && v.awaits a) = true
      · refine ⟨os ++ [⟨a, v.env freshId fault⟩], ?_⟩
        have hrun : (Scene.start options).run (os ++ [⟨a, v.env freshId fault⟩]) =
            ((Scene.start options).run os).step ⟨a, v.env freshId fault⟩ := by simp [Scene.run]
        rw [step_act h, hrun, hos]
      · refine ⟨os, ?_⟩
        rw [← hos]
        simp only [step, if_neg h]

/-! ### What every step keeps -/

/-- Nothing was written in the future, and every delivery of an accepted connection will be in time
for the next ping. -/
structure Punctual (v : Vigil) : Prop where
  recent : v.session.Recent v.clock
  timely : ∀ k next, v.session.isCurrent k = true → v.session.status = .connected →
    v.session.keepAlive.nextPing = some next → (v.post k).Timely v.clock next

theorem Punctual.advance (h : Punctual v) {time : Int} (ht : v.clock ≤ time) :
    Punctual { v with clock := time } where
  recent := h.recent.mono ht
  timely k next hk hc hn := (h.timely k next hk hc hn).mono ht (le_refl _)

theorem Punctual.park (h : Punctual v) {k : Nat} {timer : Option Int}
    (hp : v.post k = .polling timer) (he : v.elapsed timer = false) :
    Punctual (v.setPost k (.parked timer)) where
  recent := h.recent
  timely j next hj hc hn := by
    by_cases hjk : j = k
    · subst hjk
      have hold := h.timely j next hj hc hn
      rw [hp] at hold
      rw [post_setPost_self]
      obtain ⟨deadline, rfl, hle⟩ := hold
      have hlate : ¬deadline ≤ v.clock := by simpa [elapsed] using he
      exact ⟨deadline, rfl, hle.resolve_right hlate⟩
    · rw [post_setPost_of_ne _ hjk]
      exact h.timely j next hj hc hn

theorem Punctual.act (h : Punctual v) {a : Activity} {freshId : String}
    {fault : TransportId → Option Error} (ha : (v.scene.admits a && v.awaits a) = true)
    (hping : v.session.status = .connected → ∃ next, v.session.keepAlive.nextPing = some next) :
    Punctual (v.step (.act a freshId fault)) := by
  obtain ⟨bs, hbs, hasks⟩ := a.asks_perform (v.round freshId fault)
  have hsession := (session_step_act ha).trans hasks.session
  rw [session_round] at hsession
  have hclock : (v.step (.act a freshId fault)).clock = v.clock := by
    rw [step_act ha]
    exact clock_leave _ a
  have hpost : (v.step (.act a freshId fault)).post = (v.leave (v.round freshId fault) a).post := by
    rw [step_act ha]
  refine ⟨?_, ?_⟩
  · rw [hsession, hclock]
    exact recent_run hasks.onTime h.recent
  · intro k next' hk hc hn'
    rw [hpost, hclock]
    rw [hsession] at hk hc hn'
    rcases post_leave (v.round freshId fault) a k with hp | hrest
    · rw [hp]
      trivial
    -- A delivery that does not look again took in no answer to its CONNECT. So its connection was
    -- accepted before, when it was in time, and the next ping has moved on at most.
    have hno : ∀ x ∈ (a.action? (v.round freshId fault)).toList ++ bs, ¬x.Answers k := by
      rintro x hx ⟨connack, hin⟩
      have ha := Activity.eq_signal_of_answers hbs hx hin
      rcases hrest with ⟨-, hne⟩ | ⟨due, ha', -⟩
      · exact hne _ ha
      · rw [ha] at ha'
        cases ha'
    have hattempt :
        (v.session.run ((a.action? (v.round freshId fault)).toList ++ bs)).attempt = k := by
      simpa [isCurrent, hc] using hk
    obtain ⟨hk', hc', hle⟩ := still_connected hasks.onTime hno h.recent hattempt hc
    have hcur : v.session.isCurrent k = true := by simp [isCurrent, hk', hc']
    obtain ⟨next, hn⟩ := hping hc'
    obtain ⟨later, hlater, hnext⟩ := hle next hn
    obtain rfl : later = next' := Option.some.inj (hlater.symm.trans hn')
    rcases hrest with ⟨hp, -⟩ | ⟨due, rfl, hlook, hp⟩
    · rw [hp]
      exact (h.timely k next hcur hc' hn).mono (le_refl _) hnext
    · have hdue : due = some next := by
        have heq := Round.look_eq (r := v.round freshId fault) hcur
        rw [hlook, session_round, if_pos hc', hn] at heq
        exact Option.some.inj heq
      rw [hp, hdue]
      refine ⟨max v.clock next, rfl, ?_⟩
      rcases le_total v.clock next with hmax | hmax
      · exact .inl (by rw [max_eq_right hmax]; exact hnext)
      · exact .inr (by rw [max_eq_left hmax])

theorem punctual_run (options : ClientOptions) (hauto : options.connect.autoKeepAlive)
    (hk : options.connect.keepAlive ≠ 0) (clock : Int) (es : List Step) :
    Punctual ((start options clock).run es) := by
  induction es using List.reverseRecOn with
  | nil => exact ⟨nofun, fun _ _ _ _ _ => trivial⟩
  | append_singleton es e ih =>
    obtain ⟨os, hos⟩ := scene_run options clock es
    rw [run_concat]
    generalize (start options clock).run es = v at ih hos ⊢
    cases e with
    | advance time =>
      by_cases ht : v.clock ≤ time
      · simp only [step, if_pos ht]
        exact ih.advance ht
      · simp only [step, if_neg ht]
        exact ih
    | park k =>
      cases hp : v.post k with
      | looking | parked _ =>
        simp only [step, hp]
        exact ih
      | polling timer =>
        cases he : v.elapsed timer with
        | true =>
          simp only [step, hp, he, if_true]
          exact ih
        | false =>
          simp only [step, hp, he, Bool.false_eq_true, if_false]
          exact ih.park hp he
    | act a freshId fault =>
      by_cases ha : (v.scene.admits a && v.awaits a) = true
      · refine ih.act ha fun hc => ?_
        rw [session, hos] at hc ⊢
        exact Scene.nextPing_of_connected options os hauto hk hc
      · simp only [step, if_neg ha]
        exact ih

/-! ### What a delivery cannot miss -/

theorem accepted_by_signal {a : Activity} {freshId : String} {fault : TransportId → Option Error}
    (ha : (v.scene.admits a && v.awaits a) = true) :
    let r := v.round freshId fault
    let v' := v.step (.act a freshId fault)
    ∃ as, r.Asks (a.perform r) as ∧ v'.session = v.session.run as ∧
      ∀ m ∈ v.session.moves as, m.before.status ≠ .connected → m.after.status = .connected →
        let k := m.before.attempt
        (∃ connack, a = .signal k (.packet (.connack connack))) ∧ k ∈ v.scene.deliveries ∧
          v'.post k = .looking := by
  intro r v'
  obtain ⟨bs, hbs, hasks⟩ := a.asks_perform r
  refine ⟨_, hasks, (session_step_act ha).trans hasks.session, ?_⟩
  intro m hm hbefore hafter k
  obtain ⟨-, hst | ⟨connack, hin, -⟩⟩ := m.transition.welcomed hafter
  · exact absurd hst hbefore
  have hx : m.action ∈ (a.action? r).toList ++ bs := by
    rw [← v.session.map_action_moves ((a.action? r).toList ++ bs)]
    exact List.mem_map_of_mem hm
  obtain rfl : a = .signal k (.packet (.connack connack)) :=
    Activity.eq_signal_of_answers hbs hx hin
  refine ⟨⟨connack, rfl⟩, ?_, ?_⟩
  · have hadmits := (Bool.and_eq_true_iff.mp ha).1
    simpa [Scene.admits] using hadmits
  · have hpost : v'.post k = (v.leave r (.signal k (.packet (.connack connack)))).post k := by
      simp only [v', r, step_act ha]
    rw [hpost]
    exact post_setPost_self _ _

theorem ends_of_outdated {k : Nat} {freshId : String} {fault : TransportId → Option Error}
    (ha : (v.scene.admits (.look k) && v.awaits (.look k)) = true)
    (hk : v.session.isCurrent k = false) (hq : v.scene.client.queue = []) :
    let r := v.round freshId fault
    let v' := v.step (.act (.look k) freshId fault)
    v'.scene.client = v.scene.client ∧ ((Activity.look k).perform r).journal = [] ∧
      ((Activity.look k).perform r).effects = [] ∧ k ∉ v'.scene.deliveries := by
  intro r v'
  obtain ⟨hnone, hclient, hjournal, heffects⟩ := Round.look_of_outdated (r := r) hk hq
  have hstep : v'.scene = v.scene.step ⟨.look k, v.env freshId fault⟩ := by
    simp only [v', step_act ha]
  rw [Scene.step, if_pos (Bool.and_eq_true_iff.mp ha).1] at hstep
  refine ⟨?_, hjournal, heffects, ?_⟩
  · rw [hstep]
    exact hclient
  · have hend : v.scene.arrange r (.look k) = v.scene.endDelivery k := by
      simp [Scene.arrange, hnone]
    have hdeliveries : v'.scene.deliveries = (v.scene.arrange r (.look k)).deliveries := by
      rw [hstep]
      rfl
    rw [hdeliveries, hend]
    simp [Scene.endDelivery]

/-- No delivery oversleeps. Whatever the order in which calls, connectors, signals, timers and the
clock go on, a delivery that rests, and whose attempt is current and accepted, has a timer that goes
off no later than the next ping is due. An attempt is accepted by nothing but a signal of its own
delivery, which then looks again. And a delivery that looks when its attempt is not current any more
ends, and leaves the client as it is. -/
theorem never_oversleeps (options : ClientOptions) (clock : Int) (es : List Step) :
    let v := (start options clock).run es
    (∀ k timer, v.post k = .parked timer → v.session.isCurrent k → v.session.status = .connected →
      options.connect.autoKeepAlive → options.connect.keepAlive ≠ 0 →
      ∃ deadline next, timer = some deadline ∧ v.session.keepAlive.nextPing = some next ∧
        deadline ≤ next) ∧
    ∀ a freshId fault, (v.scene.admits a && v.awaits a) →
      let r := v.round freshId fault
      let v' := v.step (.act a freshId fault)
      (∃ as, r.Asks (a.perform r) as ∧ v'.session = v.session.run as ∧
        ∀ m ∈ v.session.moves as, m.before.status ≠ .connected → m.after.status = .connected →
          let k := m.before.attempt
          (∃ connack, a = .signal k (.packet (.connack connack))) ∧ k ∈ v.scene.deliveries ∧
            v'.post k = .looking) ∧
      ∀ k, a = .look k → v.session.isCurrent k = false →
        v'.scene.client = v.scene.client ∧ (a.perform r).journal = [] ∧ (a.perform r).effects = [] ∧
          k ∉ v'.scene.deliveries := by
  intro v
  refine ⟨?_, ?_⟩
  · intro k timer hp hcur hc hauto hk
    have h := punctual_run options hauto hk clock es
    obtain ⟨os, hos⟩ := scene_run options clock es
    have hping := Scene.nextPing_of_connected options os hauto hk
    rw [← hos] at hping
    obtain ⟨next, hn⟩ := hping hc
    have htimely := h.timely k next hcur hc hn
    rw [hp] at htimely
    obtain ⟨deadline, ht, hle⟩ := htimely
    exact ⟨deadline, next, ht, hn, hle⟩
  · intro a freshId fault ha r v'
    refine ⟨accepted_by_signal ha, ?_⟩
    rintro k rfl hk
    obtain ⟨os, hos⟩ := scene_run options clock es
    have hqueue : v.scene.client.queue = [] := by
      rw [hos]
      exact Scene.queue_run options os
    exact ends_of_outdated ha hk hqueue

example :
    let calm : TransportId → Option Error := fun _ => none
    let v := (start { host := "h" } 0).run
      [.act .beginConnect "" calm, .act (.finishConnect 1 (.ok 0)) "" calm, .act (.look 1) "" calm,
        .park 1, .advance 1000000,
        .act (.signal 1 (.packet (.connack ⟨false, .accepted⟩))) "" calm, .act (.look 1) "" calm,
        .park 1, .advance 5000000, .act (.call .ping) "" calm]
    (v.post 1, v.session.status, v.session.keepAlive.nextPing) =
      (.parked (some 30000000), .connected, some 35000000) := by
  cbv

end Vigil
end Mqtt
