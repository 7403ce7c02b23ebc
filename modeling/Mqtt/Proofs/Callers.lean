import Mqtt.Client.Interleaving
import Mqtt.Proofs.Account
import Mqtt.Proofs.Activities

/-!
# What callers are told

Requests come from calls, of the application or of its handlers, and each call is answered. In the
order in which the session gets to see the requests, the answers are what the session returns: a
packet identifier where the request takes one, and else that it was done.
-/

namespace Mqtt

open Session

def Request.told (q : Request) (result : Except Error (Option UInt16)) : Except Error Answer :=
  if q.takesId then Answer.ofPacketId result else result.map fun _ => .done

/-- The request of a move, and what its caller is told. -/
def Session.Move.answer? (m : Move) : Option (Request × Except Error Answer) :=
  match m.action.input with
  | .request q => some (q, q.told (m.result.map Output.granted?))
  | _ => none

/-- Where an action meets an error of a transport, it is one that the surroundings hold. -/
def Env.Gives (env : Env) (a : Action) : Prop :=
  ∀ e, a.fault = some e → ∃ transport, env.fault transport = some e

def Moment.answer? : Moment → Option (Request × Except Error Answer)
  | .returned c result => c.request?.map (·, result)
  | _ => none

namespace Round

variable {r r' r'' : Round} {as bs : List Action}

/-- The answers that handlers were given. -/
def answers (r : Round) : List (Request × Except Error Answer) := r.journal.filterMap Moment.answer?

/-- What handlers make of a round: they make requests, and are told the results. -/
structure Serves (r r' : Round) (as : List Action) : Prop extends Asks r r' as where
  requests : Requests as
  faults : ∀ a ∈ as, r.env.Gives a
  answers : r'.answers = r.answers ++ (r.client.session.moves as).filterMap Move.answer?

theorem Serves.trans (h : Serves r r' as) (h' : Serves r' r'' bs) : Serves r r'' (as ++ bs) where
  toAsks := h.toAsks.trans h'.toAsks
  requests := h.requests.append h'.requests
  faults := by
    intro a ha
    rcases List.mem_append.mp ha with ha | ha
    · exact h.faults a ha
    · exact h.env ▸ h'.faults a ha
  answers := by
    rw [h'.answers, h.answers, h.session, moves_append, List.filterMap_append, List.append_assoc]

theorem Serves.none (h : Asks r r' []) (ha : r'.answers = r.answers) : Serves r r' [] where
  toAsks := h
  requests := .nil
  faults := by simp
  answers := by simp [ha]

theorem gives_fault (r : Round) (input : Input) : r.env.Gives ⟨input, r.env.now, r.fault⟩ := by
  intro e he
  obtain ⟨transport, -, he⟩ := Option.bind_eq_some_iff.mp he
  exact ⟨transport, he⟩

theorem answers_take {α : Type} (r : Round) (reply : Reply α) :
    (r.take reply).2.answers = r.answers := by
  simp [answers, take, List.filterMap_append, List.filterMap_map, Function.comp_def,
    Moment.answer?]

theorem answers_make (r : Round) (c : Call) : (r.make c).2.answers = r.answers := by
  cases c with
  | disconnect | publish _ | subscribe _ | unsubscribe _ | ping => exact answers_take _ _
  | _ => rfl

theorem make_told (r : Round) {c : Call} {q : Request} (hq : c.request? = some q) :
    (Move.mk r.client.session ⟨.request q, r.env.now, r.fault⟩).answer? =
      some (q, (r.make c).1) := by
  have hgranted : ∀ x : Except Error (Option UInt16),
      (x.map Output.packetId).map Output.granted? = x := by
    intro x
    cases x <;> rfl
  have hanswer : (Move.mk r.client.session ⟨.request q, r.env.now, r.fault⟩).answer? =
      some (q, q.told (r.request q).1) :=
    congrArg (fun x => some (q, q.told x)) (hgranted _)
  rw [hanswer]
  cases c <;> cases hq <;> rfl

theorem serves_respond (r : Round) (c : Call) : Serves r (r.respond c)
    (c.request?.map fun q => ⟨.request q, r.env.now, r.fault⟩).toList where
  toAsks := (asks_make r c).of_eq rfl rfl (emitted_mark_returned _ _ _) rfl
  requests := r.requests_make c
  faults := by
    intro a ha
    obtain ⟨q, -, rfl⟩ := Option.map_eq_some_iff.mp (Option.mem_toList.mp ha)
    exact r.gives_fault _
  answers := by
    have hmark : (r.respond c).answers =
        (r.make c).2.answers ++ (c.request?.map (·, (r.make c).1)).toList := by
      simp only [respond, answers, mark, List.filterMap_append]
      cases hq : c.request? with
      | none => simp [Moment.answer?, hq]
      | some q => simp [Moment.answer?, hq]
    rw [hmark, answers_make]
    cases hq : c.request? with
    | none => rfl
    | some q => simp [moves_cons, make_told r hq]

theorem serves_foldl (calls : List Call) (r : Round) :
    ∃ as, Serves r (calls.foldl respond r) as := by
  induction calls generalizing r with
  | nil => exact ⟨[], .none (.none rfl rfl rfl rfl) rfl⟩
  | cons c calls ih =>
    obtain ⟨as, h⟩ := ih (r.respond c)
    exact ⟨_, (serves_respond r c).trans h⟩

theorem serves_runCalls (r : Round) (kind : EventKind) (h : Handler) :
    ∃ as, Serves r (r.runCalls kind h) as := by
  have hsame : ∀ handlers, Serves r (r.setHandlers handlers) [] :=
    fun _ => .none (.none rfl rfl rfl rfl) rfl
  unfold runCalls
  split
  · exact ⟨[], hsame r.client.handlers⟩
  · next rounds _ =>
    obtain ⟨as, has⟩ := serves_foldl h.calls
      (r.setHandlers (r.client.handlers.insert kind { h with rounds := rounds }))
    exact ⟨_, (hsame _).trans has⟩

theorem serves_dispatch (r : Round) (e : Event) : ∃ as, Serves r (r.dispatch e) as := by
  have hseen : ∀ (m : Moment), m.emitted? = Option.none → m.answer? = Option.none → ∀ u : Round,
      Serves u (u.mark m) [] := by
    intro m he ha u
    refine .none (.none rfl rfl ?_ rfl) ?_
    · simp [emitted, mark, he]
    · simp [Round.answers, mark, ha]
  have hnote : ∀ (u : Round) (n : ClientNote), Serves u (u.note n) [] :=
    fun u n => .none (asks_note u n) rfl
  have hdispatched := (hseen (.dispatched e) rfl rfl r).trans (hnote _ (.dispatching e.kind))
  unfold dispatch
  dsimp only
  split
  · exact ⟨[], hdispatched⟩
  · next h notice _ =>
    obtain ⟨as, has⟩ := serves_runCalls _ e.kind h
    have hrun := (hdispatched.trans (hseen (.invoked e.kind h.tag notice) rfl rfl _)).trans has
    split
    · exact ⟨_, hrun.trans (hnote _ _)⟩
    · exact ⟨_, hrun⟩

theorem serves_drain (r : Round) : ∃ as, Serves r r.drain as := by
  fun_induction drain r with
  | case1 r _ => exact ⟨[], .none (.none rfl rfl rfl rfl) rfl⟩
  | case2 r e rest _ ih =>
    obtain ⟨as, has⟩ := serves_dispatch (r.withQueue rest) e
    obtain ⟨bs, hbs⟩ := ih
    have hpop : Serves r (r.withQueue rest) [] := .none (.none rfl rfl rfl rfl) rfl
    exact ⟨_, (hpop.trans has).trans hbs⟩

theorem serves_settle (r : Round) : ∃ as, Serves r r.settle as := by
  have hsame : ∀ dispatching, Serves r (r.withDispatching dispatching) [] :=
    fun _ => .none (.none rfl rfl rfl rfl) rfl
  unfold settle
  split
  · exact ⟨[], hsame r.client.dispatching⟩
  · obtain ⟨as, has⟩ := serves_drain (r.withDispatching true)
    exact ⟨_, (hsame true).trans has⟩

end Round

/-! ### Activities -/

namespace Activity

open Round

def answer? (r : Round) : Activity → Option (Request × Except Error Answer)
  | call c => c.request?.map (·, (r.call c).1)
  | _ => none

theorem answers_begin (a : Activity) (r : Round) : (a.begin r).answers = r.answers := by
  cases a with
  | call c => exact answers_make r c
  | beginConnect => exact answers_take _ _
  | finishConnect _ outcome => cases outcome <;> exact answers_take _ _
  | signal _ received => cases received <;> exact answers_take _ _
  | look attempt =>
    simp only [begin]
    split
    · exact answers_take _ _
    · rfl
  | timer attempt =>
    simp only [begin]
    split
    · exact answers_take _ _
    · rfl

theorem answers_action? (a : Activity) (r : Round) :
    (r.client.session.moves (a.action? r).toList).filterMap Move.answer? =
      (a.answer? r).toList := by
  cases a with
  | call c =>
    cases hq : c.request? with
    | none => simp [action?, answer?, hq]
    | some q => simp [action?, answer?, hq, moves_cons, make_told r hq, Round.call]
  | beginConnect => rfl
  | finishConnect _ outcome => cases outcome <;> rfl
  | signal _ received => cases received <;> rfl
  | look attempt =>
    simp only [action?]
    split <;> rfl
  | timer attempt =>
    simp only [action?]
    split <;> rfl

theorem gives_action? (a : Activity) (r : Round) : ∀ x ∈ a.action? r, r.env.Gives x := by
  intro x hx
  cases a with
  | call c =>
    obtain ⟨q, -, rfl⟩ := Option.map_eq_some_iff.mp hx
    exact r.gives_fault _
  | beginConnect =>
    cases hx
    intro e he
    cases he
  | finishConnect attempt outcome =>
    cases outcome with
    | ok transport =>
      cases hx
      exact fun e he => ⟨transport, he⟩
    | error e =>
      cases hx
      exact r.gives_fault _
  | signal _ received =>
    cases received <;> cases hx <;> exact r.gives_fault _
  | look attempt =>
    simp only [action?] at hx
    split at hx
    · cases hx
      intro e he
      cases he
    · cases hx
  | timer attempt =>
    simp only [action?] at hx
    split at hx
    · cases hx
      exact r.gives_fault _
    · cases hx

theorem generated_of_action? {a : Activity} {r : Round} {x : Action} {generated : String}
    (hx : x ∈ a.action? r) (hg : x.input = .startConnect generated) :
    generated = r.env.freshId := by
  cases a with
  | call c =>
    obtain ⟨q, -, rfl⟩ := Option.map_eq_some_iff.mp hx
    cases hg
  | beginConnect =>
    cases hx
    cases hg
    rfl
  | finishConnect _ outcome => cases outcome <;> cases hx <;> cases hg
  | signal _ received => cases received <;> cases hx <;> cases hg
  | look attempt =>
    simp only [action?] at hx
    split at hx <;> cases hx
    cases hg
  | timer attempt =>
    simp only [action?] at hx
    split at hx <;> cases hx
    cases hg

/-- All that an activity asks of the session: its own part, and then what handlers request, who are
told the results. -/
theorem serves_perform (a : Activity) (r : Round) : ∃ bs, Requests bs ∧
    Asks r (a.perform r) ((a.action? r).toList ++ bs) ∧
    (∀ x ∈ (a.action? r).toList ++ bs, r.env.Gives x) ∧
    (a.perform r).answers =
      r.answers ++ ((a.begin r).client.session.moves bs).filterMap Move.answer? := by
  obtain ⟨bs, hserves⟩ := (a.begin r).serves_settle
  obtain ⟨log, hlog⟩ := a.perform_eq r
  have hown := a.asks_begin r
  rw [hlog]
  refine ⟨bs, hserves.requests, (hown.trans hserves.toAsks).of_eq rfl rfl rfl rfl, ?_, ?_⟩
  · intro x hx
    rcases List.mem_append.mp hx with hx | hx
    · exact a.gives_action? r x (Option.mem_toList.mp hx)
    · exact hown.env ▸ hserves.faults x hx
  · rw [← a.answers_begin r]
    exact hserves.answers

theorem asks_perform (a : Activity) (r : Round) :
    ∃ as, Requests as ∧ Asks r (a.perform r) ((a.action? r).toList ++ as) := by
  obtain ⟨as, has, h, -⟩ := a.serves_perform r
  exact ⟨as, has, h⟩

end Activity

namespace Deed

/-- What an activity asks of the session itself, before handlers make requests. -/
def own (d : Deed) : List Action := (d.occasion.activity.action? d.start).toList

/-- All answers that are given in the course of an activity, in the order of the requests. -/
def answers (d : Deed) : List (Request × Except Error Answer) :=
  (d.occasion.activity.answer? d.start).toList ++ d.round.answers

theorem exists_asks (d : Deed) : ∃ bs, Requests bs ∧ d.start.Asks d.round (d.own ++ bs) ∧
    (∀ a ∈ d.own ++ bs, d.occasion.env.Gives a) ∧
    d.answers = (d.before.session.moves (d.own ++ bs)).filterMap Move.answer? := by
  obtain ⟨bs, hb, hasks, hgives, hround⟩ := d.occasion.activity.serves_perform d.start
  refine ⟨bs, hb, hasks, hgives, ?_⟩
  have hbegin : (d.occasion.activity.begin d.start).client.session =
      d.before.session.run d.own := (d.occasion.activity.asks_begin d.start).session
  have hanswers : d.round.answers =
      ((d.before.session.run d.own).moves bs).filterMap Move.answer? := by
    rw [← hbegin]
    exact hround
  have hown : (d.before.session.moves d.own).filterMap Move.answer? =
      (d.occasion.activity.answer? d.start).toList := d.occasion.activity.answers_action? d.start
  rw [moves_append, List.filterMap_append, answers, hanswers, hown]

end Deed

/-! ### Clients -/

def Client.deeds (c : Client) : List Occasion → List Deed
  | [] => []
  | o :: os => ⟨c, o⟩ :: (c.perform o).client.deeds os

/-- A client asks its session for actions, carries out what the session wants of transports, and
tells callers what the session answers. What it has generated for an attempt is what it found around
it. -/
theorem Client.exists_asked_generated (c : Client) (os : List Occasion) : ∃ as,
    (c.run os).session = c.session.run as ∧
    (c.deeds os).flatMap (·.round.io) = (c.session.moves as).flatMap Move.io ∧
    (c.deeds os).flatMap Deed.answers = (c.session.moves as).filterMap Move.answer? ∧
    ∀ a ∈ as, ∀ generated, a.input = .startConnect generated →
      ∃ o ∈ os, generated = o.env.freshId := by
  induction os generalizing c with
  | nil => exact ⟨[], rfl, rfl, rfl, by simp⟩
  | cons o os ih =>
    obtain ⟨bs, hb, hasks, -, hanswers⟩ := Deed.exists_asks ⟨c, o⟩
    obtain ⟨as, hsession, hio, htold, hlater⟩ := ih (c.perform o).client
    have hown : ∀ a ∈ (Deed.mk c o).own ++ bs, ∀ generated,
        a.input = .startConnect generated → generated = o.env.freshId := by
      intro a ha generated hg
      rcases List.mem_append.mp ha with ha | ha
      · exact Activity.generated_of_action? (Option.mem_toList.mp ha) hg
      · obtain ⟨q, hq⟩ := hb a ha
        cases hq.symm.trans hg
    generalize (Deed.mk c o).own ++ bs = cs at hasks hanswers hown
    have hafter : (c.perform o).client.session = c.session.run cs := hasks.session
    have hdone : (c.perform o).io = (c.session.moves cs).flatMap Move.io := hasks.io
    rw [hafter] at hsession hio htold
    refine ⟨cs ++ as, ?_, ?_, ?_, ?_⟩
    · rw [Session.run_append]
      exact hsession
    · rw [moves_append, List.flatMap_append, ← hio, ← hdone]
      rfl
    · rw [moves_append, List.filterMap_append, ← htold, ← hanswers]
      rfl
    · intro a ha generated hg
      rcases List.mem_append.mp ha with ha | ha
      · exact ⟨o, List.mem_cons_self, hown a ha generated hg⟩
      · obtain ⟨o', ho', hg'⟩ := hlater a ha generated hg
        exact ⟨o', List.mem_cons_of_mem o ho', hg'⟩

theorem Client.exists_asked (c : Client) (os : List Occasion) : ∃ as,
    (c.run os).session = c.session.run as ∧
    (c.deeds os).flatMap (·.round.io) = (c.session.moves as).flatMap Move.io ∧
    (c.deeds os).flatMap Deed.answers = (c.session.moves as).filterMap Move.answer? := by
  obtain ⟨as, hsession, hio, hanswers, -⟩ := c.exists_asked_generated os
  exact ⟨as, hsession, hio, hanswers⟩

end Mqtt
