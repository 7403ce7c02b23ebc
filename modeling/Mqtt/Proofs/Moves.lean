import Mqtt.Proofs.StepRules

/-!
# Runs of a session

An action is an operation together with what the world adds to it: the time at which it happens and
the transport's answer to its write. A run is what any list of actions makes of a session, move by
move; nothing restricts the actions.
-/

namespace Mqtt.Session

structure Action where
  input : Input
  now : Int
  fault : Option Error

structure Move where
  before : Session
  action : Action

namespace Move

variable (m : Move)

def reply : Reply Output := m.before.step m.action.input m.action.now m.action.fault

def result : Except Error Output := m.reply.result

def after : Session := m.reply.turn.session

def events : List Event := m.reply.turn.events

def io : List Io := m.reply.turn.io

def start : Session := m.before.atTime m.action.now

theorem transition : Transition m.start m.action.fault m.action.input
    ⟨m.result, m.after, m.events, m.io⟩ := by
  have h := m.before.step_transition m.action.input m.action.now m.action.fault
  have hr : m.reply.yield id = ⟨m.result, m.after, m.events, m.io⟩ := by
    unfold Reply.yield result
    cases m.reply.result with
    | ok _ => rfl
    | error _ => rfl
  rw [← hr]
  exact h

theorem transition_of {input : Input} (h : m.action.input = input) :
    Transition m.start m.action.fault input ⟨m.result, m.after, m.events, m.io⟩ := by
  rw [← h]
  exact m.transition

end Move

def run (s : Session) : List Action → Session
  | [] => s
  | a :: as => run (Move.mk s a).after as

def moves (s : Session) : List Action → List Move
  | [] => []
  | a :: as => ⟨s, a⟩ :: moves (Move.mk s a).after as

variable (s : Session)

@[simp] theorem run_nil : s.run [] = s := rfl

@[simp] theorem moves_nil : s.moves [] = [] := rfl

theorem run_cons (a : Action) (as : List Action) : s.run (a :: as) = (Move.mk s a).after.run as :=
  rfl

theorem moves_cons (a : Action) (as : List Action) :
    s.moves (a :: as) = ⟨s, a⟩ :: (Move.mk s a).after.moves as := rfl

theorem run_append (as bs : List Action) : s.run (as ++ bs) = (s.run as).run bs := by
  induction as generalizing s with
  | nil => rfl
  | cons a as ih => exact ih _

theorem moves_append (as bs : List Action) :
    s.moves (as ++ bs) = s.moves as ++ (s.run as).moves bs := by
  induction as generalizing s with
  | nil => rfl
  | cons a as ih =>
    rw [List.cons_append, moves_cons, ih, moves_cons, List.cons_append, run_cons]

theorem map_action_moves (as : List Action) : (s.moves as).map Move.action = as := by
  induction as generalizing s with
  | nil => rfl
  | cons a as ih => rw [moves_cons, List.map_cons, ih]

theorem moves_prefix_moves {as bs : List Action} (h : bs <+: as) : s.moves bs <+: s.moves as := by
  obtain ⟨cs, rfl⟩ := h
  rw [moves_append]
  exact List.prefix_append _ _

theorem run_concat (as : List Action) (a : Action) :
    s.run (as ++ [a]) = (Move.mk (s.run as) a).after := run_append s as [a]

theorem moves_concat (as : List Action) (a : Action) :
    s.moves (as ++ [a]) = s.moves as ++ [⟨s.run as, a⟩] := moves_append s as [a]

theorem getElem_moves (as : List Action) (i : Nat) (h : i < (s.moves as).length)
    (h' : i < as.length) : (s.moves as)[i] = ⟨s.run (as.take i), as[i]⟩ := by
  induction as generalizing s i with
  | nil => simp at h'
  | cons a as ih =>
    cases i with
    | zero => rfl
    | succ i => exact ih (Move.mk s a).after i _ _

/-- Every move of a run is made by the session that the moves before it lead to. -/
theorem exists_of_prefix_moves {s : Session} {as : List Action} {earlier : List Move} {m : Move}
    (h : earlier ++ [m] <+: s.moves as) : ∃ bs, earlier = s.moves bs ∧ m.before = s.run bs := by
  induction as generalizing s earlier with
  | nil => simp at h
  | cons a as ih =>
    rw [moves_cons] at h
    cases earlier with
    | nil =>
      obtain ⟨rfl, -⟩ := List.cons_prefix_cons.mp h
      exact ⟨[], rfl, rfl⟩
    | cons n earlier =>
      obtain ⟨rfl, htail⟩ := List.cons_prefix_cons.mp h
      obtain ⟨bs, hbs, hb⟩ := ih htail
      exact ⟨a :: bs, by rw [moves_cons, hbs], hb⟩

theorem later_eq_moves {s : Session} {as : List Action} {earlier later : List Move} {m : Move}
    (h : s.moves as = earlier ++ m :: later) :
    ∃ bs cs, as = bs ++ m.action :: cs ∧ m.before = s.run bs ∧ earlier = s.moves bs ∧
      later = m.after.moves cs := by
  have hprefix : earlier ++ [m] <+: s.moves as := ⟨later, by simp [h]⟩
  obtain ⟨bs, hbs, hm⟩ := exists_of_prefix_moves hprefix
  have has : as = bs ++ m.action :: later.map Move.action := by
    rw [← s.map_action_moves as, h, List.map_append, hbs, map_action_moves, List.map_cons]
  refine ⟨bs, later.map Move.action, has, hm, hbs, ?_⟩
  rw [has, moves_append, ← hbs, ← hm, moves_cons, List.append_cancel_left_eq] at h
  exact (List.cons.inj h).2.symm

theorem of_mem_moves {s : Session} {as : List Action} {m : Move} (h : m ∈ s.moves as) :
    ∃ bs cs, as = bs ++ m.action :: cs ∧ m.before = s.run bs := by
  obtain ⟨earlier, later, heq⟩ := List.append_of_mem h
  obtain ⟨bs, cs, has, hb, -, -⟩ := later_eq_moves heq
  exact ⟨bs, cs, has, hb⟩

/-- What holds at the start and is kept by every move holds after every run. -/
theorem run_induction {P : Session → Prop} {s : Session} (hs : P s)
    (hm : ∀ m : Move, P m.before → P m.after) (as : List Action) : P (s.run as) := by
  induction as generalizing s with
  | nil => exact hs
  | cons a as ih => exact ih (hm ⟨s, a⟩ hs)

end Mqtt.Session
