import Mqtt.Client.Basic

/-!
# Dispatching events

After every call from outside, the events in the queue are dispatched, oldest first, until none is
left. Handlers make calls too; the events that these lead to join the queue, so that handlers never
nest. That the queue runs dry is seen from what handlers can still do, and then from its length.
-/

namespace Mqtt

namespace Round

def weight (r : Round) : Nat := r.client.handlers.total Handler.weight

def respond (r : Round) (c : Call) : Round :=
  let (result, r) := r.make c
  r.mark (.returned c result)

/-- Makes the calls of a handler, if any rounds are left. -/
def runCalls (r : Round) (kind : EventKind) (h : Handler) : Round :=
  match h.rounds with
  | 0 => r
  | rounds + 1 =>
    h.calls.foldl respond
      (r.setHandlers (r.client.handlers.insert kind { h with rounds := rounds }))

/-- Invokes the handler of an event, if there is one. A panic ends the handler and nothing else. -/
def dispatch (r : Round) (e : Event) : Round :=
  let r := (r.mark (.dispatched e)).note (.dispatching e.kind)
  match r.client.handlers.dispatch e with
  | none => r
  | some (h, notice) =>
    let r := (r.mark (.invoked e.kind h.tag notice)).runCalls e.kind h
    if h.panics then r.note (.handlerPanicked e.kind) else r

def withQueue (r : Round) (queue : List Event) : Round :=
  { r with client := { r.client with queue := queue } }

def withDispatching (r : Round) (dispatching : Bool) : Round :=
  { r with client := { r.client with dispatching := dispatching } }

/-! ### Handlers run down -/

@[simp] theorem handlers_take {α : Type} (r : Round) (reply : Reply α) :
    (r.take reply).2.client.handlers = r.client.handlers := rfl

theorem weight_make_le (r : Round) (c : Call) : (r.make c).2.weight ≤ r.weight + c.weight := by
  cases c with
  | setHandler kind tag calls rounds panics =>
    have := r.client.handlers.total_insert Handler.weight kind ⟨tag, calls, rounds, panics⟩
    simp only [make, weight, setHandlers, Handler.weight, Call.weight] at *
    omega
  | clearHandler kind =>
    have := r.client.handlers.total_erase Handler.weight kind
    simp only [make, weight, setHandlers] at *
    omega
  | _ => simp [make, weight, request, note]

theorem weight_foldl_le (cs : List Call) (r : Round) :
    (cs.foldl respond r).weight ≤ r.weight + weights cs := by
  induction cs generalizing r with
  | nil => simp
  | cons c cs ih =>
    have h := ih (r.respond c)
    have hc : (r.respond c).weight ≤ r.weight + c.weight := r.weight_make_le c
    simp only [List.foldl_cons, weights]
    omega

/-- A handler that makes calls has one round less after them. -/
theorem weight_runCalls (r : Round) {kind : EventKind} {h : Handler}
    (hget : r.client.handlers.get? kind = some h) :
    (r.runCalls kind h).weight < r.weight ∨ r.runCalls kind h = r := by
  unfold runCalls
  split
  case h_1 => exact .inr rfl
  case h_2 rounds hrounds =>
    have hle := weight_foldl_le h.calls
      (r.setHandlers (r.client.handlers.insert kind { h with rounds := rounds }))
    have htotal := r.client.handlers.total_insert Handler.weight kind { h with rounds := rounds }
    simp only [hget, Option.elim_some, Handler.weight, hrounds, Nat.succ_mul] at htotal
    simp only [weight, setHandlers] at hle ⊢
    omega

theorem weight_dispatch (r : Round) (e : Event) :
    (r.dispatch e).weight < r.weight ∨
      (r.dispatch e).weight = r.weight ∧ (r.dispatch e).client.queue = r.client.queue := by
  unfold dispatch
  dsimp only
  split
  case h_1 => exact .inr ⟨rfl, rfl⟩
  case h_2 h notice hd =>
    have hrun := weight_runCalls
      (((r.mark (.dispatched e)).note (.dispatching e.kind)).mark (.invoked e.kind h.tag notice))
      (Handlers.get?_of_dispatch hd)
    split <;> rcases hrun with hlt | heq
    · exact .inl hlt
    · rw [heq]; exact .inr ⟨rfl, rfl⟩
    · exact .inl hlt
    · rw [heq]; exact .inr ⟨rfl, rfl⟩

def drain (r : Round) : Round :=
  match _hq : r.client.queue with
  | [] => r.withDispatching false
  | e :: rest => drain ((r.withQueue rest).dispatch e)
termination_by (r.weight, r.client.queue.length)
decreasing_by
  rcases (r.withQueue rest).weight_dispatch e with hlt | ⟨heq, hlen⟩
  · exact .left _ _ hlt
  · rw [heq, hlen, _hq]
    exact .right _ (Nat.lt_succ_self _)

/-- Dispatches what a call has left in the queue, unless a handler further up will do so. -/
def settle (r : Round) : Round :=
  if r.client.dispatching || r.client.queue.isEmpty then r
  else (r.withDispatching true).drain

def call (r : Round) (c : Call) : Except Error Answer × Round :=
  let (result, r) := r.make c
  (result, r.settle)

end Round

end Mqtt
