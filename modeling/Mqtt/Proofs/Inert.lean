import Mqtt.Proofs.Likeness
import Mqtt.Proofs.Wire

/-!
# Reports on dead attempts

A report on an attempt that is not current finds the session as it leaves it. For an attempt that
was replaced, this is decided by its number; for the latest one, once it is over, by the status, in
each place where a report is taken in. So a run does not change when such reports are added to it
or left out, in any number and wherever they are.
-/

namespace Mqtt.Session

/-! ### One report -/

theorem isCurrent_eq_false_iff {s : Session} {k : Nat} :
    s.isCurrent k = false ↔ (k = s.attempt → s.status = .disconnected) := by
  simp only [isCurrent, Bool.and_eq_false_imp, decide_eq_true_eq, ne_eq, decide_eq_false_iff_not,
    Decidable.not_not]
  constructor
  · intro h hk
    exact h hk.symm
  · intro h hk
    exact h hk.symm

section Rules

variable {s : Session} {fault : Option Error} {k : Nat} {report : Report} {y : Yield}

theorem Idle.of_report {result : Except Error Output} (h : Idle s (.report k report) result) :
    result = .ok .done ∧ ∀ t, report ≠ .opened t := by
  cases h with
  | staleReport _ _ _ hr => exact ⟨rfl, hr⟩
  | failedLate _ _ | closedLate _ | connackLate _ _ | outOfPlace _ _ _ | neverFromServer _ _
  | nothingPending _ _ _ _ | nothingToRelease _ _ _ => exact ⟨rfl, nofun⟩

theorem Writes.attempt_eq {u v : Session} {packet : Packet} {events : List Event}
    {output : Output} (h : Writes s (.report k report) packet u v events output) :
    k = s.attempt := by
  cases h <;> rfl

theorem Transition.of_dead (h : Transition s fault (.report k report) y)
    (hk : s.isCurrent k = false) :
    (y = ⟨.ok .done, s, [], []⟩ ∧ ∀ t, report ≠ .opened t) ∨
      ∃ t, report = .opened t ∧ y = ⟨.error (.attemptCancelled s.status), s, [], [.closed t]⟩ := by
  have hover := isCurrent_eq_false_iff.mp hk
  cases h with
  | idle hi =>
    obtain ⟨rfl, hr⟩ := hi.of_report
    exact .inl ⟨rfl, hr⟩
  | discarded _ t _ => exact .inr ⟨t, rfl, rfl⟩
  | wrote hw _ _ | writeFailed hw _ => exact absurd (hover hw.attempt_eq) hw.status_ne
  | failed _ hs | accepted _ hs _ | refused _ hs _ | delivered _ hs _ | completed _ _ _ _ hs _ _
  | ponged hs => simp [hover rfl] at hs
  | closed hs => exact absurd (hover rfl) hs

end Rules

def Move.isDead (m : Move) : Bool :=
  match m.action.input with
  | .report attempt _ => !m.before.isCurrent attempt
  | _ => false

namespace Move

variable {m : Move}

theorem of_isDead (h : m.isDead) : ∃ k report, m.action.input = .report k report ∧
    m.before.isCurrent k = false := by
  unfold isDead at h
  cases hi : m.action.input with
  | report k report =>
    rw [hi] at h
    exact ⟨k, report, rfl, by simpa using h⟩
  | startConnect _ | request _ | service | nextService =>
    rw [hi] at h
    cases h

/-- A dead report sets the clock; it may close the transport that it carries. -/
theorem of_dead (h : m.isDead) :
    m.after = m.start ∧ m.events = [] ∧ ∀ x ∈ m.io, x.isClose := by
  obtain ⟨k, report, hi, hk⟩ := of_isDead h
  rcases (m.transition_of hi).of_dead hk with ⟨hy, -⟩ | ⟨t, -, hy⟩
  · obtain ⟨-, hafter, hevents, hio⟩ := Yield.mk.inj hy
    exact ⟨hafter, hevents, by simp [hio]⟩
  · obtain ⟨-, hafter, hevents, hio⟩ := Yield.mk.inj hy
    exact ⟨hafter, hevents, by simp [hio, Io.isClose]⟩

end Move

/-! ### Many reports -/

def marked {α : Type} : List Bool → List α → List α
  | mark :: marks, a :: as => if mark then a :: marked marks as else marked marks as
  | _, _ => []

/-- The members of a list that are not marked; those after the last mark are not. -/
def unmarked {α : Type} : List Bool → List α → List α
  | mark :: marks, a :: as => if mark then unmarked marks as else a :: unmarked marks as
  | _, as => as

theorem flatMap_unmarked {α β : Type} {f : α → List β} {marks : List Bool} {as : List α}
    (h : ∀ a ∈ marked marks as, f a = []) : (unmarked marks as).flatMap f = as.flatMap f := by
  induction as generalizing marks with
  | nil => cases marks <;> rfl
  | cons a as ih =>
    cases marks with
    | nil => rfl
    | cons mark marks =>
      cases mark with
      | false => rw [unmarked, if_neg Bool.false_ne_true, List.flatMap_cons, List.flatMap_cons,
          ih h]
      | true =>
        have ha : f a = [] := h a List.mem_cons_self
        rw [unmarked, if_pos rfl, List.flatMap_cons, ha, List.nil_append]
        exact ih fun b hb => h b (List.mem_cons_of_mem a hb)

/-- Beside a run with dead reports goes the run without them: the sessions stay alike. -/
theorem Alike.without_dead {s s' : Session} (h : Alike s s') {marks : List Bool}
    {as : List Action} (hdead : ∀ m ∈ marked marks (s'.moves as), m.isDead) :
    (s.moves (unmarked marks as)).map Move.reply =
        (unmarked marks (s'.moves as)).map Move.reply ∧
      Alike (s.run (unmarked marks as)) (s'.run as) := by
  induction as generalizing s s' marks with
  | nil => cases marks <;> exact ⟨rfl, h⟩
  | cons a as ih =>
    cases marks with
    | nil => exact h.run (a :: as)
    | cons mark marks =>
      cases mark with
      | false =>
        obtain ⟨hreplies, hlast⟩ := ih (Alike.refl (Move.mk s' a).after) hdead
        simp only [unmarked, moves_cons, run_cons, List.map_cons, Bool.false_eq_true, if_false]
        rw [h.reply_eq a, h.after_eq a, hreplies]
        exact ⟨rfl, hlast⟩
      | true =>
        -- The report is left out on one side. On the other it has moved the clock.
        obtain ⟨hafter, -, -⟩ := Move.of_dead (hdead ⟨s', a⟩ List.mem_cons_self)
        have halike : Alike s (Move.mk s' a).after := by
          rw [hafter]
          exact h.atTime_right a.now
        exact ih halike fun m hm => hdead m (List.mem_cons_of_mem _ hm)

theorem flatMap_without_dead {β : Type} (s : Session) {marks : List Bool} {as : List Action}
    (hdead : ∀ m ∈ marked marks (s.moves as), m.isDead) {f : Reply Output → List β}
    (hf : ∀ m : Move, m.isDead → f m.reply = []) :
    (s.moves (unmarked marks as)).flatMap (fun m => f m.reply) =
      (s.moves as).flatMap (fun m => f m.reply) := by
  obtain ⟨hreplies, -⟩ := (Alike.refl s).without_dead hdead
  calc (s.moves (unmarked marks as)).flatMap (fun m => f m.reply)
      = ((s.moves (unmarked marks as)).map Move.reply).flatMap f := by rw [List.flatMap_map]
    _ = ((unmarked marks (s.moves as)).map Move.reply).flatMap f := by rw [hreplies]
    _ = (unmarked marks (s.moves as)).flatMap (fun m => f m.reply) := by rw [List.flatMap_map]
    _ = (s.moves as).flatMap (fun m => f m.reply) :=
      flatMap_unmarked fun m hm => hf m (hdead m hm)

/-- Reports on a connection that is not current are inert. Each leaves the session as it is but for
the clock, brings no event and writes nothing; only a transport that it carries is closed, once,
and that report alone is answered with an error. Taking any such reports out of a run, or putting
them into one, leaves as they are the replies to all other operations, the events, the writes to
every transport, and the session in the end but for the clock. -/
theorem dead_reports_inert (s : Session) :
    (∀ k report now fault, s.isCurrent k = false →
      let m : Move := ⟨s, .report k report, now, fault⟩
      m.after = s.atTime now ∧ m.events = [] ∧
      match report with
      | .opened t =>
        m.io = [.closed t] ∧
        m.result = .error (.invalidState s.status (.text "connection attempt was cancelled"))
      | .failed _ | .received _ | .closed => m.io = [] ∧ m.result = .ok .done) ∧
    ∀ (as : List Action) (marks : List Bool),
      let whole := s.moves as
      let rest := s.moves (unmarked marks as)
      (∀ m ∈ marked marks whole, m.isDead) →
        rest.map Move.reply = (unmarked marks whole).map Move.reply ∧
        rest.flatMap Move.events = whole.flatMap Move.events ∧
        (∀ t, (wire t rest).filter (!·.isClose) = (wire t whole).filter (!·.isClose)) ∧
        Alike (s.run (unmarked marks as)) (s.run as) := by
  refine ⟨?_, ?_⟩
  · intro k report now fault hk m
    have hk' : (s.atTime now).isCurrent k = false := hk
    rcases (m.transition_of rfl).of_dead hk' with ⟨hy, hr⟩ | ⟨t, rfl, hy⟩
    · obtain ⟨hresult, hafter, hevents, hio⟩ := Yield.mk.inj hy
      refine ⟨hafter, hevents, ?_⟩
      cases report with
      | opened t => exact absurd rfl (hr t)
      | failed _ | received _ | closed => exact ⟨hio, hresult⟩
    · obtain ⟨hresult, hafter, hevents, hio⟩ := Yield.mk.inj hy
      exact ⟨hafter, hevents, hio, hresult⟩
  · intro as marks whole rest hdead
    obtain ⟨hreplies, hlast⟩ := (Alike.refl s).without_dead hdead
    refine ⟨hreplies, ?_, ?_, hlast⟩
    · apply s.flatMap_without_dead hdead (f := (·.turn.events))
      intro m hm
      exact (Move.of_dead hm).2.1
    · intro t
      simp only [wire, List.filter_filter, List.filter_flatMap]
      apply s.flatMap_without_dead hdead
        (f := fun r => r.turn.io.filter fun x => !x.isClose && x.transport = t)
      intro m hm
      rw [List.filter_eq_nil_iff]
      intro x hx
      rw [(Move.of_dead hm).2.2 x hx]
      simp

end Mqtt.Session
