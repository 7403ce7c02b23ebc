import Mqtt.Proofs.Moves

/-!
# Sessions that differ in the clock alone

Every operation begins by setting the clock. Sessions that are alike but for it therefore answer
every operation alike, and are equal after the first one.
-/

namespace Mqtt.Session

/-- Two sessions are alike if they agree once their clocks do. -/
def Alike (s s' : Session) : Prop := s.atTime s'.now = s'

namespace Alike

variable {s s' : Session}

theorem refl (s : Session) : Alike s s := rfl

theorem atTime_eq (h : Alike s s') (now : Int) : s.atTime now = s'.atTime now := by
  unfold Alike at h
  rw [← h]
  rfl

theorem atTime_right (h : Alike s s') (now : Int) : Alike s (s'.atTime now) :=
  h.atTime_eq now

theorem reply_eq (h : Alike s s') (a : Action) : (Move.mk s a).reply = (Move.mk s' a).reply := by
  have hstep : ∀ s : Session, (Move.mk s a).reply = (Move.mk (s.atTime a.now) a).reply := by
    intro s
    obtain ⟨input, now, fault⟩ := a
    cases input <;> rfl
  rw [hstep s, hstep s', h.atTime_eq a.now]

theorem after_eq (h : Alike s s') (a : Action) : (Move.mk s a).after = (Move.mk s' a).after :=
  congrArg (·.turn.session) (h.reply_eq a)

/-- Whatever is asked of both, they give the same replies and stay alike. -/
theorem run (h : Alike s s') (as : List Action) :
    (s.moves as).map Move.reply = (s'.moves as).map Move.reply ∧ Alike (s.run as) (s'.run as) := by
  cases as with
  | nil => exact ⟨rfl, h⟩
  | cons a as =>
    rw [moves_cons, moves_cons, List.map_cons, List.map_cons, h.reply_eq a, run_cons, run_cons,
      h.after_eq a]
    exact ⟨rfl, refl _⟩

end Alike
end Mqtt.Session
