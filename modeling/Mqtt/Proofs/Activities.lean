import Mqtt.Client.Activity
import Mqtt.Proofs.Moves

/-!
# What clients ask of their sessions

A client reaches its session through single operations only. So whatever happens in a round is
described by the actions that the round has asked of the session: these lead to the session's next
state, and the events and the effects of the round are theirs, in order. An activity asks for an
action of its own at most; everything after that comes from handlers, and handlers make requests.
-/

namespace Mqtt

def Moment.emitted? : Moment → Option Event
  | .emitted e => some e
  | _ => none

def Effect.io? : Effect → Option Io
  | .io x => some x
  | .spawnConnect => none

/-- The request that a call makes of the session. -/
def Call.request? : Call → Option Request
  | .disconnect => some .disconnect
  | .publish packet => some (.publish packet)
  | .subscribe packet => some (.subscribe packet)
  | .unsubscribe packet => some (.unsubscribe packet)
  | .ping => some .ping
  | _ => none

namespace Round

open Session

variable (r : Round)

def emitted : List Event := r.journal.filterMap Moment.emitted?

def io : List Io := r.effects.filterMap Effect.io?

/-- All that has happened between two points of a round, as far as the session is concerned. -/
structure Asks (r r' : Round) (as : List Action) : Prop where
  session : r'.client.session = r.client.session.run as
  env : r'.env = r.env
  emitted : r'.emitted = r.emitted ++ (r.client.session.moves as).flatMap Move.events
  io : r'.io = r.io ++ (r.client.session.moves as).flatMap Move.io
  onTime : ∀ a ∈ as, a.now = r.env.now

variable {r} {r' r'' : Round} {as bs : List Action}

theorem Asks.trans (h : Asks r r' as) (h' : Asks r' r'' bs) : Asks r r'' (as ++ bs) where
  session := by rw [h'.session, h.session, run_append]
  env := h'.env.trans h.env
  emitted := by
    rw [h'.emitted, h.emitted, h.session, moves_append, List.flatMap_append, List.append_assoc]
  io := by rw [h'.io, h.io, h.session, moves_append, List.flatMap_append, List.append_assoc]
  onTime := by
    intro a ha
    rcases List.mem_append.mp ha with ha | ha
    · exact h.onTime a ha
    · rw [h'.onTime a ha, h.env]

/-- Nothing is asked where the session is left alone and the events and effects are not its. -/
theorem Asks.none (hs : r'.client.session = r.client.session) (he : r'.env = r.env)
    (hm : r'.emitted = r.emitted) (hio : r'.io = r.io) : Asks r r' [] where
  session := hs
  env := he
  emitted := by simp [hm]
  io := by simp [hio]
  onTime := by simp

theorem Asks.of_eq (h : Asks r r' as) (hs : r''.client.session = r'.client.session)
    (he : r''.env = r'.env) (hm : r''.emitted = r'.emitted) (hio : r''.io = r'.io) :
    Asks r r'' as := by
  simpa using h.trans (.none hs he hm hio)

variable (r)

@[simp] theorem emitted_mark_dispatched (e : Event) :
    (r.mark (.dispatched e)).emitted = r.emitted := by
  simp [emitted, mark, Moment.emitted?]

@[simp] theorem emitted_mark_invoked (kind : EventKind) (tag : String) (notice : Notice) :
    (r.mark (.invoked kind tag notice)).emitted = r.emitted := by
  simp [emitted, mark, Moment.emitted?]

@[simp] theorem emitted_mark_returned (c : Call) (result : Except Error Answer) :
    (r.mark (.returned c result)).emitted = r.emitted := by
  simp [emitted, mark, Moment.emitted?]

theorem emitted_take {α : Type} (reply : Reply α) :
    (r.take reply).2.emitted = r.emitted ++ reply.turn.events := by
  simp [emitted, take, List.filterMap_append, List.filterMap_map, Function.comp_def,
    Moment.emitted?]

theorem io_take {α : Type} (reply : Reply α) :
    (r.take reply).2.io = r.io ++ reply.turn.io := by
  simp [io, take, List.filterMap_append, List.filterMap_map, Function.comp_def, Effect.io?]

variable {r}

theorem asks_take {α : Type} {reply : Reply α} {a : Action}
    (h : reply.turn = (Move.mk r.client.session a).reply.turn) (hnow : a.now = r.env.now) :
    Asks r (r.take reply).2 [a] where
  session := by
    show reply.turn.session = _
    rw [h]; rfl
  env := rfl
  emitted := by
    rw [emitted_take, h]
    simp [moves_cons, Move.events]
  io := by
    rw [io_take, h]
    simp [moves_cons, Move.io]
  onTime := by simpa using hnow

theorem asks_note (r : Round) (n : ClientNote) : Asks r (r.note n) [] := .none rfl rfl rfl rfl

theorem asks_request (q : Request) :
    Asks r (r.request q).2 [⟨.request q, r.env.now, r.fault⟩] := asks_take rfl rfl

theorem asks_make (r : Round) (c : Call) :
    Asks r (r.make c).2 (c.request?.map fun q => ⟨.request q, r.env.now, r.fault⟩).toList := by
  cases c with
  | disconnect => exact (asks_note r .disconnectRequested).trans (asks_request _)
  | publish packet => exact (asks_note r (.publishSubmitted packet.topic)).trans (asks_request _)
  | subscribe packet => exact (asks_note r .subscribeSubmitted).trans (asks_request _)
  | unsubscribe packet => exact (asks_note r .unsubscribeSubmitted).trans (asks_request _)
  | ping => exact asks_request _
  | spawnConnect =>
    exact .none rfl rfl rfl (by simp [io, make, Effect.io?])
  | _ => exact .none rfl rfl rfl rfl

end Round

/-- Actions of handlers, and of the application in general. -/
def Requests (as : List Session.Action) : Prop := ∀ a ∈ as, ∃ q, a.input = .request q

theorem Requests.nil : Requests [] := by simp [Requests]

theorem Requests.tail {a : Session.Action} {as : List Session.Action}
    (h : Requests (a :: as)) : Requests as := fun b hb => h b (List.mem_cons_of_mem a hb)

theorem Requests.append {as bs : List Session.Action} (ha : Requests as) (hb : Requests bs) :
    Requests (as ++ bs) := by
  intro a hmem
  rcases List.mem_append.1 hmem with h | h
  · exact ha a h
  · exact hb a h

theorem Round.requests_make (r : Round) (c : Call) :
    Requests (c.request?.map fun q => ⟨.request q, r.env.now, r.fault⟩).toList := by
  cases h : c.request? with
  | none => exact .nil
  | some q => intro a ha; exact ⟨q, by simp_all⟩

namespace Activity

open Session Round

def action? (r : Round) : Activity → Option Action
  | call c => c.request?.map fun q => ⟨.request q, r.env.now, r.fault⟩
  | beginConnect => some ⟨.startConnect r.env.freshId, r.env.now, none⟩
  | finishConnect attempt (.ok transport) =>
    some ⟨.report attempt (.opened transport), r.env.now, r.env.fault transport⟩
  | finishConnect attempt (.error e) => some ⟨.report attempt (.failed e), r.env.now, r.fault⟩
  | look attempt =>
    if r.client.session.isCurrent attempt then some ⟨.nextService, r.env.now, none⟩ else none
  | signal attempt (.packet packet) =>
    some ⟨.report attempt (.received packet), r.env.now, r.fault⟩
  | signal attempt .closed => some ⟨.report attempt .closed, r.env.now, r.fault⟩
  | timer attempt =>
    if r.client.session.isCurrent attempt then some ⟨.service, r.env.now, r.fault⟩ else none

theorem asks_begin (r : Round) (a : Activity) : Asks r (a.begin r) (a.action? r).toList := by
  cases a with
  | call c => exact asks_make r c
  | beginConnect => exact asks_take rfl rfl
  | finishConnect attempt outcome =>
    cases outcome with
    | ok transport => exact (asks_note r (.dialed attempt)).trans (asks_take rfl rfl)
    | error e => exact (asks_note r (.dialFailed attempt e)).trans (asks_take rfl rfl)
  | look attempt =>
    by_cases h : r.client.session.isCurrent attempt = true
    · have h' : (r.note .deliveryLoop).client.session.isCurrent attempt = true := h
      simp only [begin, action?, if_pos h, if_pos h']
      exact (asks_note r .deliveryLoop).trans (asks_take rfl rfl)
    · have h' : ¬ (r.note .deliveryLoop).client.session.isCurrent attempt = true := h
      simp only [begin, action?, if_neg h, if_neg h']
      exact asks_note r .deliveryLoop
  | signal attempt received =>
    cases received with
    | packet packet => exact (asks_note r (.packetDelivered attempt)).trans (asks_take rfl rfl)
    | closed => exact (asks_note r (.channelClosed attempt)).trans (asks_take rfl rfl)
  | timer attempt =>
    by_cases h : r.client.session.isCurrent attempt = true
    · have h' : (r.note .servicing).client.session.isCurrent attempt = true := h
      simp only [begin, action?, if_pos h, if_pos h']
      exact (asks_note r .servicing).trans (asks_take rfl rfl)
    · have h' : ¬ (r.note .servicing).client.session.isCurrent attempt = true := h
      simp only [begin, action?, if_neg h, if_neg h']
      exact asks_note r .servicing

end Activity

end Mqtt
