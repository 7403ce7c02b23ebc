import Mathlib.Data.List.Induction
import Mqtt.Proofs.Reentry

/-!
# Events in order

A watch is somebody who sees what a client does, and has in mind the handlers that are registered,
the events that wait, and whether a handler is at work. A watch admits only what should happen: an
event is dispatched when no handler is at work, it is the oldest one that waits, and it goes to the
handler that is registered at that moment. Whatever handlers do, and wherever one stops, a watch
finds nothing to object to.
-/

namespace Mqtt

open Session

def Call.register (t : Handlers Handler) : Call → Handlers Handler
  | .setHandler kind tag calls rounds panics => t.insert kind ⟨tag, calls, rounds, panics⟩
  | .clearHandler kind => t.erase kind
  | _ => t

def Activity.register (t : Handlers Handler) : Activity → Handlers Handler
  | .call c => c.register t
  | _ => t

/-- What an application is at, as far as a client can tell. -/
inductive Work
  | none
  | handling
  /-- The handler at work has made a call that has not returned. -/
  | calling (call : Call)

def Activity.work : Activity → Work
  | call c => .calling c
  | _ => .handling

structure Watch where
  handlers : Handlers Handler := {}
  queue : List Event := []
  /-- The handler for the event dispatched last, until it is invoked. -/
  chosen : Option (EventKind × Handler × Notice) := none
  work : Work := .none

namespace Watch

inductive Sees : Watch → Sight → Watch → Prop
  | began (t : Handlers Handler) (o : Occasion) :
    Sees ⟨t, [], none, .none⟩ (.began o) ⟨o.activity.register t, [], none, .none⟩
  | within (t : Handlers Handler) (queue : List Event) (o : Occasion) :
    Sees ⟨t, queue, none, .handling⟩ (.within o)
      ⟨o.activity.register t, queue, none, o.activity.work⟩
  | emitted (t : Handlers Handler) (queue : List Event) (work : Work) (e : Event) :
    Sees ⟨t, queue, none, work⟩ (.saw (.emitted e)) ⟨t, queue ++ [e], none, work⟩
  | dispatched (t : Handlers Handler) (queue : List Event) (e : Event) :
    Sees ⟨t, e :: queue, none, .none⟩ (.saw (.dispatched e))
      ⟨t, queue, (t.dispatch e).map fun (h, notice) => (e.kind, h, notice), .none⟩
  | invoked (t : Handlers Handler) (queue : List Event) (kind : EventKind) (h : Handler)
      (notice : Notice) :
    Sees ⟨t, queue, some (kind, h, notice), .none⟩ (.saw (.invoked kind h.tag notice))
      ⟨t.spend kind h, queue, none, .handling⟩
  | returned (t : Handlers Handler) (queue : List Event) (c : Call)
      (result : Except Error Answer) :
    Sees ⟨t, queue, none, .calling c⟩ (.saw (.returned c result)) ⟨t, queue, none, .handling⟩
  | ended (t : Handlers Handler) (queue : List Event) (panics : Bool) :
    Sees ⟨t, queue, none, .handling⟩ (.ended panics) ⟨t, queue, none, .none⟩

/-- What a watch has in mind after a while, if nothing was wrong. -/
inductive Follows (w : Watch) : List Sight → Watch → Prop
  | start : Follows w [] w
  | next {seen : List Sight} {u v : Watch} {sight : Sight} (h : Follows w seen u)
      (hs : Sees u sight v) : Follows w (seen ++ [sight]) v

theorem Follows.emits {w : Watch} {seen : List Sight} {t : Handlers Handler} {queue : List Event}
    {work : Work} (h : Follows w seen ⟨t, queue, none, work⟩) (es : List Event) :
    Follows w (seen ++ es.map fun e => .saw (.emitted e)) ⟨t, queue ++ es, none, work⟩ := by
  induction es using List.reverseRecOn with
  | nil => simpa using h
  | append_singleton es e ih =>
    rw [List.map_append, ← List.append_assoc, ← List.append_assoc]
    exact ih.next (.emitted t _ work e)

end Watch

def Moment.dispatched? : Moment → Option Event
  | .dispatched e => some e
  | _ => none

namespace Sight

def moment? : Sight → Option Moment
  | saw m => some m
  | began _ | within _ | ended _ => none

/-- The activity that begins, from outside or within a handler. -/
def occasion? : Sight → Option Occasion
  | began o | within o => some o
  | saw _ | ended _ => none

def emitted? (sight : Sight) : Option Event := sight.moment?.bind Moment.emitted?

def dispatched? (sight : Sight) : Option Event := sight.moment?.bind Moment.dispatched?

end Sight

/-- Where a watch has nothing to object to, events are dispatched as they were put out. -/
theorem Watch.Follows.dispatched_append_queue {w v : Watch} {seen : List Sight}
    (h : Follows w seen v) :
    seen.filterMap Sight.dispatched? ++ v.queue = w.queue ++ seen.filterMap Sight.emitted? := by
  induction h with
  | start => simp
  | next _ hs ih =>
    simp only [List.filterMap_append, ← List.append_assoc, ← ih]
    cases hs <;> simp [List.filterMap, Sight.dispatched?, Sight.emitted?, Sight.moment?,
      Moment.dispatched?, Moment.emitted?]

/-! ## Steps -/

namespace Round

/-- What a call, or the beginning of an activity, adds to a round: events, in the journal and in the
queue alike. -/
structure Emits (r r' : Round) (es : List Event) : Prop where
  journal : r'.journal = r.journal ++ es.map .emitted
  queue : r'.client.queue = r.client.queue ++ es
  dispatching : r'.client.dispatching = r.client.dispatching

theorem emits_take {α : Type} (r : Round) (reply : Reply α) :
    Emits r (r.take reply).2 reply.turn.events := ⟨rfl, rfl, rfl⟩

theorem Emits.after_note {r r' : Round} {es : List Event} {n : ClientNote}
    (h : Emits (r.note n) r' es) : Emits r r' es := ⟨h.journal, h.queue, h.dispatching⟩

theorem emits_nil (r : Round) : Emits r r [] := ⟨by simp, by simp, rfl⟩

theorem emits_make (r : Round) (c : Call) :
    ∃ es, Emits r (r.make c).2 es ∧
      (r.make c).2.client.handlers = c.register r.client.handlers := by
  cases c with
  | disconnect => exact ⟨_, (emits_take (r.note .disconnectRequested) _).after_note, rfl⟩
  | publish packet =>
    exact ⟨_, (emits_take (r.note (.publishSubmitted packet.topic)) _).after_note, rfl⟩
  | subscribe packet => exact ⟨_, (emits_take (r.note .subscribeSubmitted) _).after_note, rfl⟩
  | unsubscribe packet => exact ⟨_, (emits_take (r.note .unsubscribeSubmitted) _).after_note, rfl⟩
  | ping => exact ⟨_, emits_take r _, rfl⟩
  | spawnConnect => exact ⟨[], ⟨by simp [make], by simp [make], rfl⟩, rfl⟩
  | setHandler kind tag calls rounds panics =>
    exact ⟨[], ⟨by simp [make, setHandlers], by simp [make, setHandlers], rfl⟩, rfl⟩
  | clearHandler kind =>
    exact ⟨[], ⟨by simp [make, setHandlers], by simp [make, setHandlers], rfl⟩, rfl⟩
  | _ => exact ⟨[], emits_nil r, rfl⟩

theorem emits_begin (r : Round) (a : Activity) :
    ∃ es, Emits r (a.begin r) es ∧ (a.begin r).client.handlers = a.register r.client.handlers := by
  cases a with
  | call c => exact emits_make r c
  | beginConnect => exact ⟨_, emits_take r _, rfl⟩
  | finishConnect attempt outcome =>
    cases outcome with
    | ok transport => exact ⟨_, (emits_take (r.note (.dialed attempt)) _).after_note, rfl⟩
    | error e => exact ⟨_, (emits_take (r.note (.dialFailed attempt e)) _).after_note, rfl⟩
  | look attempt =>
    simp only [Activity.begin]
    split
    · exact ⟨_, (emits_take (r.note .deliveryLoop) _).after_note, rfl⟩
    · exact ⟨[], (emits_nil (r.note .deliveryLoop)).after_note, rfl⟩
  | signal attempt received =>
    cases received with
    | packet packet => exact ⟨_, (emits_take (r.note (.packetDelivered attempt)) _).after_note, rfl⟩
    | closed => exact ⟨_, (emits_take (r.note (.channelClosed attempt)) _).after_note, rfl⟩
  | timer attempt =>
    simp only [Activity.begin]
    split
    · exact ⟨_, (emits_take (r.note .servicing) _).after_note, rfl⟩
    · exact ⟨[], (emits_nil (r.note .servicing)).after_note, rfl⟩

end Round

/-! ## Courses -/

/-- How much can be under way: handlers do not nest. -/
inductive Frame.Flat : List Frame → Prop
  | rest : Flat []
  | dispatching : Flat [.dispatching none]
  | handling (kind : EventKind) : Flat [.handling kind, .dispatching none]

namespace Course

def work (s : Course) : Work :=
  match s.stack with
  | .handling _ :: _ => .handling
  | _ => .none

def watch (s : Course) : Watch := ⟨s.client.handlers, s.client.queue, none, s.work⟩

structure Sound (s : Course) : Prop where
  flat : Frame.Flat s.stack
  flag : s.client.dispatching = !s.stack.isEmpty
  dry : s.AtRest → s.client.queue = []
  follows : Watch.Follows {} s.record s.watch

theorem not_atRest {s : Course} {frame : Frame} {stack : List Frame}
    (hs : s.stack = frame :: stack) : ¬s.AtRest :=
  fun hrest => List.cons_ne_nil frame stack (hs.symm.trans hrest)

theorem sound_start (options : ClientOptions) : Sound (start (.new options)) where
  flat := .rest
  flag := rfl
  dry _ := rfl
  follows := .start

theorem follows_enter {s : Course} {work work' : Work} {sight : Sight} {o : Occasion}
    (h : Watch.Follows {} s.record ⟨s.client.handlers, s.client.queue, none, work⟩)
    (hs : Watch.Sees ⟨s.client.handlers, s.client.queue, none, work⟩ sight
      ⟨o.activity.register s.client.handlers, s.client.queue, none, work'⟩) :
    Watch.Follows {} (s.enter sight o).record
        ⟨(s.enter sight o).client.handlers, (s.enter sight o).client.queue, none, work'⟩ ∧
      (s.enter sight o).client.dispatching = s.client.dispatching := by
  obtain ⟨es, hes, ht⟩ := (s.client.roundIn o.env).emits_begin o.activity
  refine ⟨?_, hes.dispatching⟩
  have hseen := (h.next hs).emits es
  have hjournal : (o.activity.begin (s.client.roundIn o.env)).journal = es.map .emitted :=
    hes.journal
  have hrecord : (s.enter sight o).record =
      s.record ++ [sight] ++ es.map fun e => .saw (.emitted e) := by
    simp [enter, hjournal, Function.comp_def]
  have hclient : (s.enter sight o).client = (o.activity.begin (s.client.roundIn o.env)).client :=
    rfl
  rw [hrecord, hclient, ht, hes.queue]
  exact hseen

@[simp] theorem client_leave (s : Course) (caller : Option (Call × Except Error Answer)) :
    (s.leave caller).client = s.client := by
  cases caller <;> rfl

@[simp] theorem stack_leave (s : Course) (caller : Option (Call × Except Error Answer)) :
    (s.leave caller).stack = s.stack := by
  cases caller <;> rfl

theorem follows_leave {s : Course} {a : Activity} {r : Round} {t : Handlers Handler}
    {queue : List Event} (h : Watch.Follows {} s.record ⟨t, queue, none, a.work⟩) :
    Watch.Follows {} (s.leave (a.returns r)).record ⟨t, queue, none, .handling⟩ := by
  cases a with
  | call c => exact h.next (.returned t queue c _)
  | beginConnect | finishConnect _ _ | look _ | signal _ _ | timer _ => exact h

theorem Sound.act {s : Course} (h : Sound s) (o : Occasion) : Sound (s.act o) := by
  obtain ⟨client, stack, record⟩ := s
  obtain ⟨hflat, hflag, hdry, hfollows⟩ := h
  cases hflat with
  | dispatching => exact ⟨.dispatching, hflag, hdry, hfollows⟩
  | rest =>
    have hqueue : client.queue = [] := hdry rfl
    have hbegan : Watch.Sees ⟨client.handlers, client.queue, none, .none⟩ (.began o)
        ⟨o.activity.register client.handlers, client.queue, none, .none⟩ := by
      rw [hqueue]
      exact .began _ o
    obtain ⟨hseen, hd⟩ := follows_enter (s := ⟨client, [], record⟩) hfollows hbegan
    have hidle : (enter ⟨client, [], record⟩ (.began o) o).client.dispatching = false :=
      hd.trans hflag
    simp only [Course.act, settle, hidle, Bool.false_or, leave]
    split
    · next he =>
      exact { flat := .rest, flag := hidle, dry := fun _ => List.isEmpty_iff.mp he,
              follows := hseen }
    · exact { flat := .dispatching, flag := rfl, dry := (absurd · (not_atRest rfl)),
              follows := hseen }
  | handling kind =>
    have hwithin := Watch.Sees.within client.handlers client.queue o
    obtain ⟨hseen, hd⟩ :=
      follows_enter (s := ⟨client, [.handling kind, .dispatching none], record⟩) hfollows hwithin
    have hbusy : (enter ⟨client, [.handling kind, .dispatching none], record⟩ (.within o)
        o).client.dispatching = true := hd.trans hflag
    simp only [Course.act, settle, hbusy, Bool.true_or, if_true]
    generalize hs : enter ⟨client, [.handling kind, .dispatching none], record⟩ (.within o) o = s
      at hseen hbusy
    have hstack : s.stack = [.handling kind, .dispatching none] := by
      rw [← hs]
      rfl
    refine {
      flat := by rw [stack_leave, hstack]; exact .handling kind
      flag := by rw [client_leave, stack_leave, hbusy, hstack]; rfl
      dry := (absurd · (not_atRest ((s.stack_leave _).trans hstack)))
      follows := ?_ }
    unfold watch work
    rw [client_leave, stack_leave, hstack]
    exact follows_leave hseen

theorem Sound.take {s : Course} (h : Sound s) (hs : s.stack = [.dispatching none]) {e : Event}
    {rest : List Event} (hq : s.client.queue = e :: rest) : Sound (s.take e rest) := by
  obtain ⟨client, stack, record⟩ := s
  cases hs
  have hfollows : Watch.Follows {} record ⟨client.handlers, e :: rest, none, .none⟩ := by
    rw [← hq]
    exact h.follows
  have hdispatched := hfollows.next (.dispatched _ rest e)
  simp only [Course.take]
  cases hfound : client.handlers.dispatch e with
  | none =>
    rw [hfound, Option.map_none] at hdispatched
    exact { flat := .dispatching, flag := h.flag, dry := (absurd · (not_atRest rfl)),
            follows := hdispatched }
  | some found =>
    obtain ⟨handler, notice⟩ := found
    rw [hfound, Option.map_some] at hdispatched
    exact { flat := .handling e.kind, flag := h.flag, dry := (absurd · (not_atRest rfl)),
            follows := hdispatched.next (.invoked _ rest e.kind handler notice) }

theorem Sound.dispatch {s : Course} (h : Sound s) : Sound s.dispatch := by
  obtain ⟨client, stack, record⟩ := s
  cases h.flat with
  | rest | handling kind => exact h
  | dispatching =>
    cases hq : client.queue with
    | cons e rest =>
      simp only [Course.dispatch, hq]
      exact h.take rfl hq
    | nil =>
      have hfollows : Watch.Follows {} record ⟨client.handlers, client.queue, none, .none⟩ :=
        h.follows
      simp only [Course.dispatch, hq, leave]
      rw [hq] at hfollows
      exact { flat := .rest, flag := rfl, dry := fun _ => rfl, follows := hfollows }

theorem Sound.finish {s : Course} (h : Sound s) (panics : Bool) : Sound (s.finish panics) := by
  obtain ⟨client, stack, record⟩ := s
  cases h.flat with
  | rest | dispatching => exact h
  | handling kind =>
    have hfollows : Watch.Follows {} record ⟨client.handlers, client.queue, none, .handling⟩ :=
      h.follows
    exact { flat := .dispatching, flag := h.flag, dry := (absurd · (not_atRest rfl)),
            follows := hfollows.next (.ended _ _ panics) }

theorem sound_run {s : Course} (h : Sound s) (beats : List Beat) : Sound (s.run beats) := by
  induction beats generalizing s with
  | nil => exact h
  | cons b beats ih =>
    apply ih
    cases b with
    | act o => exact h.act o
    | dispatch => exact h.dispatch
    | finish panics => exact h.finish panics

theorem Sound.not_dispatching {s : Course} (h : Sound s) (hs : s.AtRest) :
    s.client.dispatching = false := by
  rw [h.flag, show s.stack = [] from hs]
  rfl

/-- Between two activities no event waits, and the client is not dispatching. -/
theorem atRest_run (options : ClientOptions) (os : List Occasion) :
    ((Client.new options).run os).queue = [] ∧
      ((Client.new options).run os).dispatching = false := by
  obtain ⟨beats, hrest, hclient, -⟩ := exists_beats_run (s := start (.new options)) rfl os
  have h : Sound ((start (.new options)).run beats) := sound_run (sound_start options) beats
  have hdry := h.dry hrest
  have hflag := h.not_dispatching hrest
  rw [hclient] at hdry hflag
  exact ⟨hdry, hflag⟩

/-! ## Where the events come from -/

def emitted (s : Course) : List Event := s.record.filterMap Sight.emitted?

def dispatched (s : Course) : List Event := s.record.filterMap Sight.dispatched?

/-- The activities so far, outermost or not, in the order in which they began. -/
def occasions (s : Course) : List Occasion := s.record.filterMap Sight.occasion?

def handling (s : Course) : List EventKind :=
  s.stack.filterMap fun
    | .dispatching _ => none
    | .handling kind => some kind

end Course

/-- What activities ask of a client's session themselves, one after the other. -/
def Client.asked (c : Client) : List Occasion → List Action
  | [] => []
  | o :: os =>
    let as := (o.activity.action? (c.roundIn o.env)).toList
    as ++ Client.asked { c with session := c.session.run as } os

theorem Activity.action?_congr {r r' : Round} (hs : r'.client.session = r.client.session)
    (he : r'.env = r.env) (a : Activity) : a.action? r' = a.action? r := by
  have hf : r'.fault = r.fault := by rw [Round.fault, Round.fault, hs, he]
  cases a with
  | finishConnect _ outcome => cases outcome <;> simp only [action?, he, hf]
  | signal _ received => cases received <;> simp only [action?, he, hf]
  | _ => simp only [action?, hs, he, hf]

theorem Client.asked_concat (c : Client) (os : List Occasion) {o : Occasion} {r : Round}
    (hs : r.client.session = c.session.run (c.asked os)) (he : r.env = o.env) :
    c.asked (os ++ [o]) = c.asked os ++ (o.activity.action? r).toList := by
  induction os generalizing c with
  | nil =>
    have hr : o.activity.action? (c.roundIn o.env) = o.activity.action? r :=
      Activity.action?_congr hs.symm he.symm _
    simp [asked, hr]
  | cons o' os ih =>
    rw [asked, Session.run_append] at hs
    rw [List.cons_append, asked, asked, List.append_assoc, ← ih _ hs]

namespace Course

/-- The session of a client is where the activities so far have brought it, and the events that were
seen are those that it has put out. -/
structure Told (c : Client) (s : Course) : Prop where
  session : s.client.session = c.session.run (c.asked s.occasions)
  emitted : s.emitted = (c.session.moves (c.asked s.occasions)).flatMap Move.events

variable {c : Client} {s : Course}

theorem filterMap_occasion?_map_saw (seen : List Moment) :
    (seen.map Sight.saw).filterMap Sight.occasion? = [] := by
  simp [Sight.occasion?]

theorem filterMap_emitted?_map_saw (seen : List Moment) :
    (seen.map Sight.saw).filterMap Sight.emitted? = seen.filterMap Moment.emitted? := by
  rw [List.filterMap_map]
  rfl

theorem Told.see (h : Told c s) {s' : Course} (hs : s'.client.session = s.client.session)
    {seen : List Sight} (hr : s'.record = s.record ++ seen)
    (ho : seen.filterMap Sight.occasion? = []) (he : seen.filterMap Sight.emitted? = []) :
    Told c s' := by
  have hoccasions : s'.occasions = s.occasions := by simp [occasions, hr, ho]
  have hemitted : s'.emitted = s.emitted := by simp [Course.emitted, hr, he]
  exact ⟨by rw [hs, hoccasions, h.session], by rw [hemitted, hoccasions, h.emitted]⟩

theorem Told.leave (h : Told c s) (caller : Option (Call × Except Error Answer)) :
    Told c (s.leave caller) := by
  cases caller with
  | none => exact h
  | some _ => exact h.see rfl rfl rfl rfl

theorem Told.settle (h : Told c s) (caller : Option (Call × Except Error Answer)) :
    Told c (s.settle caller) := by
  unfold Course.settle
  split
  · exact h.leave caller
  · exact h.see rfl (List.append_nil _).symm rfl rfl

theorem Told.enter (h : Told c s) {sight : Sight} {o : Occasion}
    (ho : sight.occasion? = some o) (hm : sight.moment? = none) : Told c (s.enter sight o) := by
  have hasks := o.activity.asks_begin (s.client.roundIn o.env)
  have hoccasions : (s.enter sight o).occasions = s.occasions ++ [o] := by
    rw [occasions, Course.enter, List.filterMap_append, List.filterMap_cons_some ho,
      filterMap_occasion?_map_saw]
    rfl
  have hasked := c.asked_concat s.occasions (o := o) (r := s.client.roundIn o.env) h.session rfl
  have hsight : sight.emitted? = none := by rw [Sight.emitted?, hm, Option.bind_none]
  have hemitted : (s.enter sight o).emitted =
      s.emitted ++ (o.activity.begin (s.client.roundIn o.env)).emitted := by
    rw [Course.emitted, Course.enter, List.filterMap_append, List.filterMap_cons_none hsight,
      filterMap_emitted?_map_saw]
    rfl
  constructor
  · rw [hoccasions, hasked, Session.run_append, ← h.session]
    exact hasks.session
  · rw [hoccasions, hasked, moves_append, List.flatMap_append, ← h.session, ← h.emitted, hemitted,
      hasks.emitted]
    rfl

theorem Told.take (h : Told c s) (e : Event) (rest : List Event) : Told c (s.take e rest) := by
  unfold Course.take
  dsimp only
  split
  · exact h.see rfl rfl rfl rfl
  · exact h.see rfl (List.append_assoc _ _ _) rfl rfl

theorem Told.beat (h : Told c s) (b : Beat) : Told c (s.beat b) := by
  cases b with
  | act o =>
    show Told c (s.act o)
    unfold Course.act
    split
    · exact (h.enter rfl rfl).settle none
    · exact (h.enter rfl rfl).settle _
    · exact h
  | dispatch =>
    show Told c s.dispatch
    unfold Course.dispatch
    split
    · next caller stack _ =>
      split
      · have hover : Told c { s with
            client := { s.client with dispatching := false }, stack := stack } :=
          h.see rfl (List.append_nil _).symm rfl rfl
        exact hover.leave caller
      · exact h.take _ _
    · exact h
  | finish panics =>
    show Told c (s.finish panics)
    unfold Course.finish
    split
    · exact h.see rfl rfl rfl rfl
    · exact h

theorem told_run (h : Told c s) (beats : List Beat) : Told c (s.run beats) := by
  induction beats generalizing s with
  | nil => exact h
  | cons b beats ih => exact ih (h.beat b)

theorem Sound.length_handling_le (h : Sound s) : s.handling.length ≤ 1 := by
  obtain ⟨client, stack, record⟩ := s
  unfold handling
  cases h.flat <;> simp

theorem dispatched_leave (s : Course) (caller : Option (Call × Except Error Answer)) :
    (s.leave caller).dispatched = s.dispatched := by
  cases caller with
  | none => rfl
  | some _ => exact List.filterMap_append.trans (List.append_nil _)

theorem Sound.dispatched_beat (h : Sound s) (hw : s.handling ≠ []) (b : Beat) :
    (s.beat b).dispatched = s.dispatched := by
  obtain ⟨client, stack, record⟩ := s
  cases h.flat with
  | rest | dispatching => exact absurd rfl hw
  | handling kind =>
    cases b with
    | dispatch => rfl
    | finish panics => exact List.filterMap_append.trans (List.append_nil _)
    | act o =>
      obtain ⟨es, hes, -⟩ := (client.roundIn o.env).emits_begin o.activity
      have hbusy : (o.activity.begin (client.roundIn o.env)).client.dispatching = true :=
        hes.dispatching.trans h.flag
      have hjournal : (o.activity.begin (client.roundIn o.env)).journal = es.map .emitted :=
        hes.journal
      simp only [beat, Course.act, Course.settle, Course.enter, hbusy, hjournal, Bool.true_or,
        if_true, dispatched_leave]
      simp [dispatched, Sight.dispatched?, Sight.moment?, Moment.dispatched?]

/-- Whatever is asked of a client and whatever its handlers do, be it calls of the application,
halves of connect calls or steps of deliveries, each in surroundings of its own: the events that its
session puts out for the activities that have begun are dispatched in order, each of them once,
apart from those that still wait; at most one handler is at work at a time, and nothing is
dispatched in the meantime; nothing happens that a watch would not expect; and between two outermost
activities no event waits and the client is not dispatching. The rounds of a client are such a
course. -/
theorem delivered_in_order (options : ClientOptions) :
    (∀ beats : List Beat,
      let s := (start (.new options)).run beats
      let as := (Client.new options).asked s.occasions
      s.client.session = (Session.new options.connect).run as ∧
      s.emitted = ((Session.new options.connect).moves as).flatMap Move.events ∧
      s.dispatched ++ s.client.queue = s.emitted ∧
      s.handling.length ≤ 1 ∧
      (s.handling ≠ [] → ∀ b, (s.beat b).dispatched = s.dispatched) ∧
      Watch.Follows {} s.record s.watch ∧
      (s.AtRest → s.client.queue = [] ∧ s.client.dispatching = false)) ∧
    ∀ os : List Occasion, ∃ beats,
      let s := (start (.new options)).run beats
      s.AtRest ∧ s.client = (Client.new options).run os ∧
        s.record.filter Sight.isPlain = (Client.new options).seen os := by
  constructor
  · intro beats
    have h : Sound ((start (.new options)).run beats) := sound_run (sound_start options) beats
    have htold : Told (.new options) ((start (.new options)).run beats) :=
      told_run ⟨rfl, rfl⟩ beats
    exact ⟨htold.session, htold.emitted, h.follows.dispatched_append_queue, h.length_handling_le,
      h.dispatched_beat, h.follows, fun hrest => ⟨h.dry hrest, h.not_dispatching hrest⟩⟩
  · exact exists_beats_run (s := start (.new options)) rfl

example :
    let calm : Env := ⟨0, "", fun _ => none⟩
    let broken : Env := ⟨1, "", fun _ => some (.transport (.text ""))⟩
    let publish : Call := .publish ⟨0, "a", .atLeastOnce, false, false, .empty⟩
    let s := (start (.new { host := "h" })).run
      [.act ⟨.call (.setHandler .publishSent "" [] 0 false), calm⟩, .act ⟨.beginConnect, calm⟩,
        .act ⟨.finishConnect 1 (.ok 0), calm⟩,
        .act ⟨.signal 1 (.packet (.connack ⟨false, .accepted⟩)), calm⟩, .dispatch, .dispatch,
        .act ⟨.call publish, calm⟩, .dispatch, .act ⟨.call publish, broken⟩,
        .act ⟨.beginConnect, calm⟩, .act ⟨.finishConnect 2 (.ok 1), calm⟩, .finish true]
    (s.dispatched.map Event.kind, s.client.queue.map Event.kind, s.client.session.status) =
      ([.connectResult, .publishSent], [.operationAbandoned, .connectionClosed], .connecting) := by
  cbv

end Course

end Mqtt
