import Mqtt.Proofs.Activities

/-!
# Dispatching step by step

`Round.settle` runs handlers in one go, and takes a call within a handler to be no more than itself.
Here nothing of that is presupposed. A course is a client with what is under way in it, as a stack.
Every activity, wherever it begins, ends by trying to dispatch the queue, which it does unless the
client is dispatching already. What handlers do is left open. While one is at work, the next beat is
an activity of any kind, in surroundings of its own, or the end of the handler, which may be a
panic; so a handler is any list of calls of the application, of halves of connect calls and of steps
of deliveries, and there may be no end to what handlers lead to. In between two outermost activities
the client is at rest.

The rounds of a client are courses in which handlers make the calls that they were registered with.
-/

namespace Mqtt

open Session

/-- Something under way in a client. -/
inductive Frame
  /-- The queue is being dispatched at the end of an activity, maybe of a call that returns then. -/
  | dispatching (caller : Option (Call × Except Error Answer))
  /-- A handler is at work. -/
  | handling (kind : EventKind)

inductive Sight
  /-- An activity begins from outside. -/
  | began (occasion : Occasion)
  /-- The handler at work begins an activity. -/
  | within (occasion : Occasion)
  | saw (moment : Moment)
  /-- The handler at work ends. -/
  | ended (panics : Bool)

/-- The handlers once one of them has been invoked. -/
def Handlers.spend (t : Handlers Handler) (kind : EventKind) (h : Handler) : Handlers Handler :=
  if h.rounds = 0 then t else t.insert kind { h with rounds := h.rounds - 1 }

def Activity.returns (r : Round) : Activity → Option (Call × Except Error Answer)
  | call c => some (c, (r.make c).1)
  | _ => none

structure Course where
  client : Client
  /-- What is under way, innermost first. -/
  stack : List Frame := []
  record : List Sight := []

/-- What happens to a client next. -/
inductive Beat
  /-- An activity begins, within the handler at work if there is one. -/
  | act (occasion : Occasion)
  /-- The oldest event is dispatched, or the dispatch is over. -/
  | dispatch
  /-- The handler at work ends. -/
  | finish (panics : Bool)

namespace Course

def start (c : Client) : Course where
  client := c

def AtRest (s : Course) : Prop := s.stack = []

def leave (s : Course) : Option (Call × Except Error Answer) → Course
  | none => s
  | some (c, result) => { s with record := s.record ++ [Sight.saw (.returned c result)] }

/-- The end of an activity: unless the client is dispatching already, it is here that it does so. -/
def settle (s : Course) (caller : Option (Call × Except Error Answer)) : Course :=
  if s.client.dispatching || s.client.queue.isEmpty then s.leave caller
  else { s with
    client := { s.client with dispatching := true }
    stack := .dispatching caller :: s.stack }

/-- An activity up to the events that it leads to. -/
def enter (s : Course) (sight : Sight) (o : Occasion) : Course :=
  let r := o.activity.begin (s.client.roundIn o.env)
  { s with client := r.client, record := s.record ++ sight :: r.journal.map Sight.saw }

/-- On one thread an activity begins when none is under way, or within the handler at work. -/
def act (s : Course) (o : Occasion) : Course :=
  match s.stack with
  | [] => (s.enter (.began o) o).settle none
  | .handling _ :: _ =>
    (s.enter (.within o) o).settle (o.activity.returns (s.client.roundIn o.env))
  | .dispatching _ :: _ => s

/-- An event leaves the queue, and the handler that is registered then is invoked. -/
def take (s : Course) (e : Event) (rest : List Event) : Course :=
  let s := { s with
    client := { s.client with queue := rest }
    record := s.record ++ [Sight.saw (.dispatched e)] }
  match s.client.handlers.dispatch e with
  | none => s
  | some (h, notice) => { s with
    client := { s.client with handlers := s.client.handlers.spend e.kind h }
    stack := .handling e.kind :: s.stack
    record := s.record ++ [Sight.saw (.invoked e.kind h.tag notice)] }

def dispatch (s : Course) : Course :=
  match s.stack with
  | .dispatching caller :: stack =>
    match s.client.queue with
    | [] => leave { s with client := { s.client with dispatching := false }, stack := stack } caller
    | e :: rest => s.take e rest
  | _ => s

def finish (s : Course) (panics : Bool) : Course :=
  match s.stack with
  | .handling _ :: stack => { s with stack := stack, record := s.record ++ [.ended panics] }
  | _ => s

def beat (s : Course) : Beat → Course
  | .act o => s.act o
  | .dispatch => s.dispatch
  | .finish panics => s.finish panics

def run (s : Course) (beats : List Beat) : Course := beats.foldl beat s

theorem run_append (s : Course) (xs ys : List Beat) : s.run (xs ++ ys) = (s.run xs).run ys :=
  List.foldl_append

end Course

/-! ## Rounds -/

/-- Whether something is seen by those who see handlers from outside only. -/
def Sight.isPlain : Sight → Bool
  | began _ | saw _ => true
  | within _ | ended _ => false

@[simp] theorem Sight.isPlain_saw (m : Moment) : (saw m).isPlain = true := rfl

@[simp] theorem Sight.filter_isPlain_map_saw (seen : List Moment) :
    (seen.map saw).filter isPlain = seen.map saw :=
  List.filter_eq_self.mpr (by simp)

def Client.seen (c : Client) : List Occasion → List Sight
  | [] => []
  | o :: os => .began o :: (c.perform o).journal.map .saw ++ (c.perform o).client.seen os

theorem Round.make_congr {r u : Round} (hc : u.client = r.client) (he : u.env = r.env) (c : Call) :
    (u.make c).1 = (r.make c).1 ∧ (u.make c).2.client = (r.make c).2.client ∧
      ∃ seen, (u.make c).2.journal = u.journal ++ seen ∧
        (r.make c).2.journal = r.journal ++ seen := by
  obtain ⟨client, env, journal, effects, log⟩ := r
  obtain ⟨client', env', journal', effects', log'⟩ := u
  cases hc
  cases he
  cases c with
  | disconnect | publish _ | subscribe _ | unsubscribe _ | ping => exact ⟨rfl, rfl, _, rfl, rfl⟩
  | _ => exact ⟨rfl, rfl, [], (List.append_nil _).symm, (List.append_nil _).symm⟩

@[simp] theorem Round.dispatching_make (r : Round) (c : Call) :
    (r.make c).2.client.dispatching = r.client.dispatching := by
  cases c <;> rfl

theorem Round.runCalls_eq (r : Round) (kind : EventKind) (h : Handler) :
    r.runCalls kind h = (if h.rounds = 0 then [] else h.calls).foldl respond
      (r.setHandlers (r.client.handlers.spend kind h)) := by
  unfold runCalls
  split
  case h_1 h0 => simp [Handlers.spend, h0, setHandlers]
  case h_2 n hn => simp [Handlers.spend, hn]

theorem Round.dispatching_foldl_respond (calls : List Call) (r : Round) :
    (calls.foldl respond r).client.dispatching = r.client.dispatching := by
  induction calls generalizing r with
  | nil => rfl
  | cons c calls ih => exact (ih _).trans (dispatching_make r c)

theorem Round.dispatching_dispatch (r : Round) (e : Event) :
    (r.dispatch e).client.dispatching = r.client.dispatching := by
  unfold dispatch
  dsimp only
  split
  · rfl
  · rw [runCalls_eq]
    split <;> exact dispatching_foldl_respond _ _

namespace Course

/-- A course that has come to the point where a round is. -/
structure Mirrors (s : Course) (past : List Sight) (r : Round) : Prop where
  client : s.client = r.client
  record : s.record.filter Sight.isPlain = past ++ r.journal.map .saw

variable {s : Course} {past : List Sight} {r : Round}

theorem Mirrors.respond (h : s.Mirrors past r) {kind : EventKind} {stack : List Frame}
    (hs : s.stack = .handling kind :: stack) (hd : r.client.dispatching = true) (c : Call) :
    (s.act ⟨.call c, r.env⟩).Mirrors past (r.respond c) ∧
      (s.act ⟨.call c, r.env⟩).stack = .handling kind :: stack := by
  obtain ⟨hresult, hclient, seen, hseen, hjournal⟩ :=
    Round.make_congr (r := r) (u := s.client.roundIn r.env) h.client rfl c
  have hbusy : (r.make c).2.client.dispatching = true := by rw [Round.dispatching_make, hd]
  have hact : s.act ⟨.call c, r.env⟩ = { s with
      client := (r.make c).2.client
      record := s.record ++ .within ⟨.call c, r.env⟩ :: seen.map Sight.saw ++
        [Sight.saw (.returned c (r.make c).1)] } := by
    simp only [act, hs, settle, enter, Activity.begin, Activity.returns, leave, hclient, hresult,
      hseen, hbusy, Bool.true_or, if_true]
    rfl
  rw [hact]
  refine ⟨⟨rfl, ?_⟩, hs⟩
  simp [h.record, Round.respond, Round.mark, hjournal, Sight.isPlain]

theorem Mirrors.foldl_respond (h : s.Mirrors past r) {kind : EventKind} {stack : List Frame}
    (hs : s.stack = .handling kind :: stack) (hd : r.client.dispatching = true)
    (calls : List Call) : ∃ beats, (s.run beats).Mirrors past (calls.foldl Round.respond r) ∧
      (s.run beats).stack = .handling kind :: stack := by
  induction calls generalizing s r with
  | nil => exact ⟨[], h, hs⟩
  | cons c calls ih =>
    obtain ⟨hact, hstack⟩ := h.respond hs hd c
    have hd' : (r.respond c).client.dispatching = true := (r.dispatching_make c).trans hd
    obtain ⟨beats, hb⟩ := ih hact hstack hd'
    exact ⟨.act ⟨.call c, r.env⟩ :: beats, hb⟩

theorem Mirrors.dispatch (h : s.Mirrors past r) {stack : List Frame}
    {caller : Option (Call × Except Error Answer)} (hs : s.stack = .dispatching caller :: stack)
    (hd : r.client.dispatching = true) {e : Event} {rest : List Event}
    (hq : r.client.queue = e :: rest) :
    ∃ beats, (s.run beats).Mirrors past ((r.withQueue rest).dispatch e) ∧
      (s.run beats).stack = .dispatching caller :: stack := by
  have htake : s.run [.dispatch] = s.take e rest := by
    simp only [run, List.foldl_cons, List.foldl_nil, beat, Course.dispatch, hs, h.client, hq]
  cases hfound : r.client.handlers.dispatch e with
  | none =>
    refine ⟨[.dispatch], ?_⟩
    have hround : (r.withQueue rest).dispatch e =
        ((r.withQueue rest).mark (.dispatched e)).note (.dispatching e.kind) := by
      simp only [Round.dispatch, Round.note, Round.mark, Round.withQueue, hfound]
    rw [htake, hround]
    simp only [take, h.client, hfound]
    exact ⟨⟨rfl, by simp [h.record, Round.note, Round.mark, Round.withQueue]⟩, hs⟩
  | some found =>
    obtain ⟨handler, notice⟩ := found
    let u := (((r.withQueue rest).mark (.dispatched e)).note (.dispatching e.kind)).mark
      (.invoked e.kind handler.tag notice)
    have hround : (r.withQueue rest).dispatch e =
        if handler.panics then (u.runCalls e.kind handler).note (.handlerPanicked e.kind)
        else u.runCalls e.kind handler := by
      simp only [Round.dispatch, Round.note, Round.mark, Round.withQueue, hfound, u]
    have hinvoked : (s.take e rest).Mirrors past
        (u.setHandlers (u.client.handlers.spend e.kind handler)) ∧
        (s.take e rest).stack = .handling e.kind :: .dispatching caller :: stack := by
      simp only [take, h.client, hfound]
      refine ⟨⟨rfl, ?_⟩, by rw [hs]⟩
      simp [h.record, u, Round.note, Round.mark, Round.withQueue, Round.setHandlers]
    obtain ⟨beats, hmirrors, hstack⟩ := hinvoked.1.foldl_respond hinvoked.2 hd
      (if handler.rounds = 0 then [] else handler.calls)
    rw [← Round.runCalls_eq] at hmirrors
    refine ⟨.dispatch :: beats ++ [.finish handler.panics], ?_⟩
    have hrun : s.run (.dispatch :: beats ++ [.finish handler.panics]) =
        ((s.take e rest).run beats).finish handler.panics := by
      rw [run_append, ← htake]
      rfl
    have hfinish : ((s.take e rest).run beats).finish handler.panics =
        ⟨(u.runCalls e.kind handler).client, .dispatching caller :: stack,
          ((s.take e rest).run beats).record ++ [.ended handler.panics]⟩ := by
      simp only [Course.finish, hstack, hmirrors.client]
    rw [hrun, hround, hfinish]
    refine ⟨⟨?_, ?_⟩, rfl⟩
    · split <;> rfl
    · rw [List.filter_append, hmirrors.record]
      split <;> simp [Sight.isPlain, Round.note]

theorem Mirrors.drain (h : s.Mirrors past r) (hs : s.stack = [.dispatching none])
    (hd : r.client.dispatching = true) :
    ∃ beats, (s.run beats).Mirrors past r.drain ∧ (s.run beats).AtRest := by
  fun_induction Round.drain r generalizing s with
  | case1 r hq =>
    have hover : s.run [.dispatch] = ⟨(r.withDispatching false).client, [], s.record⟩ := by
      simp only [run, List.foldl_cons, List.foldl_nil, beat, Course.dispatch, hs, h.client, hq,
        leave, Round.withDispatching]
    refine ⟨[.dispatch], ?_⟩
    rw [hover]
    exact ⟨⟨rfl, h.record⟩, rfl⟩
  | case2 r e rest hq ih =>
    obtain ⟨xs, hmirrors, hstack⟩ := h.dispatch hs hd hq
    have hd' : ((r.withQueue rest).dispatch e).client.dispatching = true :=
      (Round.dispatching_dispatch _ e).trans hd
    obtain ⟨ys, hys⟩ := ih hmirrors hstack hd'
    refine ⟨xs ++ ys, ?_⟩
    rw [run_append]
    exact hys

theorem Mirrors.settle (h : s.Mirrors past r) (hs : s.AtRest) :
    ∃ beats, ((s.settle none).run beats).Mirrors past r.settle ∧
      ((s.settle none).run beats).AtRest := by
  have hstack : s.stack = [] := hs
  unfold Course.settle Round.settle
  rw [h.client]
  split
  · exact ⟨[], h, hs⟩
  · exact drain ⟨rfl, h.record⟩ (by rw [hstack]) rfl

theorem exists_beats_perform (hs : s.AtRest) (o : Occasion) :
    ∃ beats, (s.run beats).AtRest ∧ (s.run beats).client = (s.client.perform o).client ∧
      (s.run beats).record.filter Sight.isPlain = s.record.filter Sight.isPlain ++
        .began o :: (s.client.perform o).journal.map .saw := by
  have hstack : s.stack = [] := hs
  have hact : s.act o = (s.enter (.began o) o).settle none := by simp only [act, hstack]
  have hbegin : (s.enter (.began o) o).Mirrors (s.record.filter Sight.isPlain ++ [.began o])
      (o.activity.begin (s.client.roundIn o.env)) :=
    ⟨rfl, by simp [enter, Sight.isPlain]⟩
  obtain ⟨beats, hmirrors, hrest⟩ := hbegin.settle hs
  obtain ⟨log, hlog⟩ := o.activity.perform_eq (s.client.roundIn o.env)
  have hperform : s.client.perform o =
      { (o.activity.begin (s.client.roundIn o.env)).settle with log := log } := hlog
  refine ⟨.act o :: beats, ?_⟩
  have hrun : s.run (.act o :: beats) = ((s.enter (.began o) o).settle none).run beats := by
    rw [← hact]
    rfl
  rw [hrun, hperform]
  exact ⟨hrest, hmirrors.client, by simp [hmirrors.record]⟩

/-- The rounds of a client, one after the other, are a course of it. -/
theorem exists_beats_run (hs : s.AtRest) (os : List Occasion) :
    ∃ beats, (s.run beats).AtRest ∧ (s.run beats).client = s.client.run os ∧
      (s.run beats).record.filter Sight.isPlain =
        s.record.filter Sight.isPlain ++ s.client.seen os := by
  induction os generalizing s with
  | nil => exact ⟨[], hs, rfl, (List.append_nil _).symm⟩
  | cons o os ih =>
    obtain ⟨xs, hrest, hclient, hrecord⟩ := exists_beats_perform hs o
    obtain ⟨ys, hys⟩ := ih hrest
    refine ⟨xs ++ ys, ?_⟩
    rw [run_append]
    refine ⟨hys.1, by rw [hys.2.1, hclient]; rfl, ?_⟩
    rw [hys.2.2, hrecord, hclient, List.append_assoc]
    rfl

end Course

end Mqtt
