import Mathlib.Logic.Function.Basic
import Mqtt.Client.Dispatch

/-!
# Routing

Which handler an event goes to is said in several places, case by case: by the kind of the event, by
what registers a handler, by what clears one and by the dispatch. Together they are a single table
from kinds to handlers. Whatever is registered, cleared and dispatched, in whatever order, the
handlers that are invoked, and what they are told, are those that the table gives, and the entry of
a kind is the handler that was registered for it last, unless it has been cleared since.
-/

namespace Mqtt

/-- What an event has to tell. The two results of a connection attempt are told as one thing. -/
def Event.notice : Event → Notice
  | connectionSuccess connack => .connectResult (.ok connack)
  | connectionFailure error => .connectResult (.error error)
  | publishSent id | publishComplete id | unsubscribeComplete id => .packetId id
  | publishReceived packet => .message packet
  | subscribeComplete suback => .granted suback
  | pingResponse | connectionClosed => .bare
  | operationAbandoned operation => .abandoned operation

inductive HandlerOp (α : Type)
  | register (kind : EventKind) (h : α)
  | clear (kind : EventKind)
  | dispatch (e : Event)

variable {α : Type}

namespace Handlers

def step (t : Handlers α) : HandlerOp α → Handlers α
  | .register kind h => t.insert kind h
  | .clear kind => t.erase kind
  | .dispatch _ => t

def after (t : Handlers α) (ops : List (HandlerOp α)) : Handlers α := ops.foldl step t

/-- The handlers that are invoked, each with what it is told. -/
def invocations (t : Handlers α) : List (HandlerOp α) → List (α × Notice)
  | [] => []
  | .register kind h :: ops => (t.insert kind h).invocations ops
  | .clear kind :: ops => (t.erase kind).invocations ops
  | .dispatch e :: ops => (t.dispatch e).toList ++ t.invocations ops

end Handlers

/-! ### The table -/

abbrev HandlerTable (α : Type) := EventKind → Option α

namespace HandlerTable

def step (table : HandlerTable α) : HandlerOp α → HandlerTable α
  | .register kind h => Function.update table kind (some h)
  | .clear kind => Function.update table kind none
  | .dispatch _ => table

def after (table : HandlerTable α) (ops : List (HandlerOp α)) : HandlerTable α :=
  ops.foldl step table

/-- An event invokes the handler under its kind, once, and nothing if there is none. -/
def invocations (table : HandlerTable α) : List (HandlerOp α) → List (α × Notice)
  | [] => []
  | .register kind h :: ops => invocations (Function.update table kind (some h)) ops
  | .clear kind :: ops => invocations (Function.update table kind none) ops
  | .dispatch e :: ops =>
    match table e.kind with
    | none => invocations table ops
    | some h => (h, e.notice) :: invocations table ops

end HandlerTable

/-- The entry that an operation makes under a kind, empty where it clears. -/
def HandlerOp.sets? (kind : EventKind) : HandlerOp α → Option (Option α)
  | register k h => if k = kind then some (some h) else none
  | clear k => if k = kind then some none else none
  | dispatch _ => none

theorem HandlerOp.sets?_eq_some_some_iff {kind : EventKind} {op : HandlerOp α} {h : α} :
    op.sets? kind = some (some h) ↔ op = .register kind h := by
  cases op <;> simp [sets?]

theorem HandlerTable.step_apply (table : HandlerTable α) (op : HandlerOp α) (kind : EventKind) :
    table.step op kind = (op.sets? kind).getD (table kind) := by
  cases op with
  | dispatch e => rfl
  | register k h | clear k =>
    by_cases hk : k = kind
    · subst hk
      simp [step, HandlerOp.sets?]
    · simp [step, HandlerOp.sets?, hk, Ne.symm hk]

/-- The last entry made is the one that counts. -/
theorem HandlerTable.after_apply (ops : List (HandlerOp α)) (table : HandlerTable α)
    (kind : EventKind) :
    table.after ops kind = (ops.reverse.findSome? (·.sets? kind)).getD (table kind) := by
  induction ops generalizing table with
  | nil => rfl
  | cons op ops ih =>
    have hafter : table.after (op :: ops) = (table.step op).after ops := rfl
    rw [hafter, ih, step_apply, List.reverse_cons, List.findSome?_append]
    cases ops.reverse.findSome? (·.sets? kind) with
    | some entry => rfl
    | none => cases hop : op.sets? kind <;> simp [List.findSome?, hop]

theorem HandlerTable.after_empty_eq_some_iff {ops : List (HandlerOp α)} {kind : EventKind} {h : α} :
    after (fun _ => none) ops kind = some h ↔
      ∃ before behind, ops = before ++ .register kind h :: behind ∧
        ∀ op ∈ behind, op.sets? kind = none := by
  rw [after_apply, Option.getD_eq_iff]
  simp only [reduceCtorEq, and_false, or_false, List.findSome?_eq_some_iff,
    HandlerOp.sets?_eq_some_some_iff]
  constructor
  · rintro ⟨behind, _, before, hops, rfl, hbehind⟩
    refine ⟨before.reverse, behind.reverse, ?_, by simpa using hbehind⟩
    rw [← List.reverse_reverse ops, hops]
    simp
  · rintro ⟨before, behind, rfl, hbehind⟩
    exact ⟨behind.reverse, _, before.reverse, by simp, rfl, by simpa using hbehind⟩

/-! ### Slot by slot -/

namespace Handlers

theorem get?_empty : ({} : Handlers α).get? = fun _ => none := by
  funext kind
  cases kind <;> rfl

theorem get?_insert (t : Handlers α) (kind : EventKind) (h : α) :
    (t.insert kind h).get? = Function.update t.get? kind (some h) := by
  funext l
  by_cases hl : kind = l
  · subst hl
    simp
  · simp [hl, Ne.symm hl]

theorem get?_erase (t : Handlers α) (kind : EventKind) :
    (t.erase kind).get? = Function.update t.get? kind none := by
  funext l
  cases kind <;> cases l <;> rfl

theorem dispatch_eq (t : Handlers α) (e : Event) :
    t.dispatch e = (t.get? e.kind).map (·, e.notice) := by
  cases e <;> rfl

theorem get?_step (t : Handlers α) (op : HandlerOp α) :
    (t.step op).get? = HandlerTable.step t.get? op := by
  cases op with
  | register kind h => exact t.get?_insert kind h
  | clear kind => exact t.get?_erase kind
  | dispatch e => rfl

theorem get?_after (ops : List (HandlerOp α)) (t : Handlers α) :
    (t.after ops).get? = HandlerTable.after t.get? ops := by
  induction ops generalizing t with
  | nil => rfl
  | cons op ops ih =>
    have h : ((t.step op).after ops).get? = _ := ih (t.step op)
    rw [get?_step] at h
    exact h

theorem invocations_eq (ops : List (HandlerOp α)) (t : Handlers α) :
    t.invocations ops = HandlerTable.invocations t.get? ops := by
  induction ops generalizing t with
  | nil => rfl
  | cons op ops ih =>
    cases op with
    | register kind h => rw [invocations, ih, get?_insert, HandlerTable.invocations]
    | clear kind => rw [invocations, ih, get?_erase, HandlerTable.invocations]
    | dispatch e =>
      rw [invocations, ih, dispatch_eq, HandlerTable.invocations]
      cases t.get? e.kind <;> rfl

/-- Over any sequence of registrations, clearings and dispatches, the handlers are one table. -/
theorem routes_as_one_table (ops : List (HandlerOp α)) :
    ({} : Handlers α).invocations ops = HandlerTable.invocations (fun _ => none) ops ∧
    (∀ kind h, HandlerTable.after (fun _ => none) ops kind = some h ↔
      ∃ before behind, ops = before ++ .register kind h :: behind ∧
        ∀ op ∈ behind, op.sets? kind = none) ∧
    (∀ e, (({} : Handlers α).after ops).dispatch e =
      (HandlerTable.after (fun _ => none) ops e.kind).map (·, e.notice)) ∧
    ∀ (t : Handlers α) e kind,
      (∀ h, (t.insert kind h).dispatch e =
        if e.kind = kind then some (h, e.notice) else t.dispatch e) ∧
      (t.erase kind).dispatch e = if e.kind = kind then none else t.dispatch e := by
  refine ⟨?_, fun kind h => HandlerTable.after_empty_eq_some_iff, fun e => ?_, fun t e kind => ?_⟩
  · rw [invocations_eq, get?_empty]
  · rw [dispatch_eq, get?_after, get?_empty]
  · simp only [dispatch_eq, get?_insert, get?_erase, Function.update_apply]
    exact ⟨fun h => by split <;> rfl, by split <;> rfl⟩

example (connack : Connack) (error : Error) :
    ({} : Handlers Nat).invocations [.dispatch .pingResponse, .register .connectResult 1,
      .dispatch (.connectionFailure error), .register .connectResult 2, .register .pingResponse 3,
      .dispatch (.connectionSuccess connack), .clear .pingResponse, .dispatch .pingResponse] =
      [(1, .connectResult (.error error)), (2, .connectResult (.ok connack))] :=
  rfl

end Handlers

/-! ### The calls of an application -/

def Call.handlerOp? : Call → Option (HandlerOp Handler)
  | setHandler kind tag calls rounds panics => some (.register kind ⟨tag, calls, rounds, panics⟩)
  | clearHandler kind => some (.clear kind)
  | _ => none

theorem Round.handlers_foldl_respond (cs : List Call) (r : Round) :
    (cs.foldl respond r).client.handlers =
      r.client.handlers.after (cs.filterMap Call.handlerOp?) := by
  induction cs generalizing r with
  | nil => rfl
  | cons c cs ih =>
    rw [List.foldl_cons, ih]
    cases c <;> rfl

end Mqtt
