import Mathlib.Tactic.SplitIfs
import Mqtt.Proofs.Transitions

/-!
# The automaton of a connection

What an application sees of its connections, as marks: an attempt, its success or failure, and the
end of what succeeded. `Progress` draws the automaton that a session follows, and every rule follows
it.
-/

namespace Mqtt

inductive Mark
  /-- It began an attempt. -/
  | attempt
  | success
  | failure
  | closed
  /-- It ended an accepted connection. -/
  | disconnect
  deriving DecidableEq

def Event.mark? : Event → Option Mark
  | connectionSuccess _ => some .success
  | connectionFailure _ => some .failure
  | connectionClosed => some .closed
  | _ => none

/-- The status that the last mark leaves. -/
def Status.afterMark : Option Mark → Status
  | some .attempt => connecting
  | some .success => connected
  | _ => disconnected

/-- The marks of a life that has reached a status. -/
def Status.begun : Status → List Mark
  | connecting => [.attempt]
  | connected => [.attempt, .success]
  | disconnected | disconnecting => []

namespace Session

/-- The mark of an operation that the application asks for, if it does not fail. -/
def Input.mark? (s : Session) (input : Input) (result : Except Error Output) : Option Mark :=
  match input, result with
  | .startConnect _, .ok _ => some .attempt
  | .request .disconnect, .ok _ => if s.status = .connected then some .disconnect else none
  | _, _ => none

/-- The marks of an operation: its own, and those of its events. -/
def marksOf (s : Session) (input : Input) (result : Except Error Output) (events : List Event) :
    List Mark := (input.mark? s result).toList ++ events.filterMap Event.mark?

/-- The automaton of a connection: status and number of attempts before, marks, and both after. -/
inductive Progress : Status → Nat → List Mark → Status → Nat → Prop
  | none {st : Status} {n : Nat} : Progress st n [] st n
  | attempt {n : Nat} : Progress .disconnected n [.attempt] .connecting (n + 1)
  | success {n : Nat} : Progress .connecting n [.success] .connected n
  | failure {n : Nat} : Progress .connecting n [.failure] .disconnected n
  | closed {n : Nat} : Progress .connected n [.closed] .disconnected n
  | disconnect {n : Nat} : Progress .connected n [.disconnect] .disconnected n

section Rules

variable {s : Session} {fault : Option Error} {input : Input} {y : Yield}

theorem marks_abandoned (s : Session) : s.abandoned.filterMap Event.mark? = [] :=
  s.filterMap_abandoned fun _ => rfl

theorem marks_farewell (s : Session) (reason : Error) : (s.farewell reason).filterMap Event.mark? =
    [if s.status = .connecting then .failure else .closed] := by
  rw [s.filterMap_farewell fun _ => rfl]
  split_ifs
  · rfl
  · rfl

theorem Progress.ended {st : Status} (n : Nat) (h₁ : st ≠ .disconnected)
    (h₂ : st ≠ .disconnecting) :
    Progress st n [if st = .connecting then .failure else .closed] .disconnected n := by
  cases st with
  | disconnected => exact absurd rfl h₁
  | connecting => exact .failure
  | connected => exact .closed
  | disconnecting => exact absurd rfl h₂

theorem Idle.marks_eq_nil {result : Except Error Output} (h : Idle s input result) :
    marksOf s input result [] = [] := by
  cases h with
  | rejected request _ _ => cases request <;> rfl
  | notConnected request _ _ _ => cases request <;> rfl
  | _ => rfl

theorem Writes.mark?_eq_none {u v : Session} {packet : Packet} {events : List Event}
    {output : Output} (h : Writes s input packet u v events output)
    (result : Except Error Output) : input.mark? s result = none := by
  cases h <;> rfl

theorem Writes.marks_events {u v : Session} {packet : Packet} {events : List Event}
    {output : Output} (h : Writes s input packet u v events output) :
    events.filterMap Event.mark? = [] := by
  cases h <;> rfl

/-- Every rule follows the automaton. -/
theorem Transition.progress (h : Transition s fault input y) (hs : s.status ≠ .disconnecting) :
    Progress s.status s.attempt (marksOf s input y.result y.events) y.session.status
      y.session.attempt := by
  cases h with
  | idle hi =>
    dsimp only
    rw [hi.marks_eq_nil]
    exact .none
  | wrote hw _ _ =>
    obtain ⟨-, -, hst, ha⟩ := hw.frame
    dsimp only [written]
    rw [marksOf, hw.mark?_eq_none, hw.marks_events, hst, ha]
    exact .none
  | @writeFailed _ _ u _ _ _ e hw _ =>
    obtain ⟨⟨-, hst, ha⟩, -⟩ := hw.frame
    dsimp only [ended]
    rw [marksOf, hw.mark?_eq_none, marks_farewell, hst, ha]
    exact .ended s.attempt hw.status_ne hs
  | closed hst =>
    dsimp only
    rw [marksOf, marks_farewell]
    exact .ended s.attempt hst hs
  | disconnected hst =>
    dsimp only [ended]
    rw [marksOf, List.filterMap_append, marks_abandoned]
    rcases hst with hst | hst
    · simp only [hst, Input.mark?]
      exact .disconnect
    · simp only [hst, Input.mark?]
      exact .failure
  | began _ hst _ _ =>
    rw [hst]
    exact .attempt
  | failed _ hst =>
    rw [hst]
    exact .failure
  | accepted _ hst _ =>
    rw [hst]
    exact .success
  | refused _ hst _ =>
    rw [hst]
    exact .failure
  | completed packet _ event _ _ hp _ =>
    have hnil : [event].filterMap Event.mark? = [] := by
      cases packet <;> cases hp <;> rfl
    dsimp only
    rw [marksOf, hnil]
    exact .none
  | exhausted request _ _ hr _ _ =>
    cases request with
    | disconnect => cases hr
    | _ => exact .none
  | discarded _ _ _ | delivered _ _ _ | ponged _ => exact .none

theorem Transition.failure_of_connack {attempt : Nat} {connack : Connack} {e : Error}
    (h : Transition s fault (.report attempt (.received (.connack connack))) y)
    (he : .connectionFailure e ∈ y.events) : e = .connectionRefused connack.returnCode := by
  cases h with
  | wrote hw _ _ => cases hw
  | writeFailed hw _ => cases hw
  | refused _ _ _ =>
    cases List.mem_singleton.mp he
    rfl
  | accepted _ _ _ => cases List.mem_singleton.mp he
  | completed _ _ _ _ _ hp _ => cases hp
  | idle _ => cases he

theorem Transition.started_iff {generated : String}
    (h : Transition s fault (.startConnect generated) y) :
    (∃ output, y.result = .ok output) ↔ s.status = .disconnected := by
  cases h with
  | idle hi =>
    cases hi with
    | connectNotAllowed _ hs =>
      refine ⟨?_, fun hst => absurd hst hs⟩
      rintro ⟨output, ho⟩
      cases ho
  | wrote hw _ _ => cases hw
  | writeFailed hw _ => cases hw
  | began _ hs _ _ => exact ⟨fun _ => hs, fun _ => ⟨_, rfl⟩⟩

end Rules

end Session

end Mqtt
