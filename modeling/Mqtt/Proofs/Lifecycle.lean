import Mathlib.Computability.Language
import Mathlib.Data.List.Induction
import Mqtt.Proofs.Moves
import Mqtt.Proofs.Progress

/-!
# The life of a connection

The words that whole runs write: all connections together, and each attempt on its own. There are
three whole lives, and a run writes one after the other.
-/

namespace Mqtt.Session

/-- The whole lives of connections. -/
def lives : Language Mark :=
  {[.attempt, .failure], [.attempt, .success, .closed], [.attempt, .success, .disconnect]}

def Move.marks (m : Move) : List Mark := marksOf m.before m.action.input m.result m.events

def word (ms : List Move) : List Mark := ms.flatMap Move.marks

def life (attempt : Nat) (ms : List Move) : List Mark :=
  word (ms.filter fun m => m.after.attempt = attempt)

theorem Move.progress {m : Move} (hm : m.before.status ≠ .disconnecting) :
    Progress m.before.status m.before.attempt m.marks m.after.status m.after.attempt :=
  m.transition.progress hm

theorem Progress.status_ne {st st' : Status} {n n' : Nat} {w : List Mark}
    (h : Progress st n w st' n') (hst : st ≠ .disconnecting) : st' ≠ .disconnecting := by
  cases h with
  | none => exact hst
  | attempt | success | failure | closed | disconnect => decide

theorem status_ne_disconnecting (o : ConnectOptions) (as : List Action) :
    ((new o).run as).status ≠ .disconnecting := by
  have hnew : (new o).status ≠ .disconnecting := by
    change Status.disconnected ≠ _
    decide
  exact run_induction (P := fun s => s.status ≠ .disconnecting) hnew
    (fun m hm => (Move.progress hm).status_ne hm) as

theorem word_concat (ms : List Move) (m : Move) : word (ms ++ [m]) = word ms ++ m.marks := by
  simp [word]

theorem life_concat (k : Nat) (ms : List Move) (m : Move) :
    life k (ms ++ [m]) = life k ms ++ if m.after.attempt = k then m.marks else [] := by
  by_cases h : m.after.attempt = k
  · simp [life, word, h]
  · simp [life, word, h]

/-- The status tells the last mark. -/
theorem Progress.status_eq {st st' : Status} {n n' : Nat} {w v : List Mark}
    (h : Progress st n w st' n') (hst : st = .afterMark v.getLast?) :
    st' = .afterMark (v ++ w).getLast? := by
  cases h with
  | none =>
    rw [List.append_nil]
    exact hst
  | attempt | success | failure | closed | disconnect =>
    rw [List.getLast?_concat]
    rfl

theorem status_eq_afterMark (o : ConnectOptions) (as : List Action) :
    ((new o).run as).status = .afterMark (word ((new o).moves as)).getLast? := by
  induction as using List.reverseRecOn with
  | nil => rfl
  | append_singleton as a ih =>
    rw [run_concat, moves_concat, word_concat]
    exact (Move.progress (m := ⟨(new o).run as, a⟩) (status_ne_disconnecting o as)).status_eq ih

theorem append_mem_kstar {done life : List Mark} (hd : done ∈ KStar.kstar lives)
    (hl : life ∈ lives) : done ++ life ∈ KStar.kstar lives :=
  Set.mem_of_mem_of_subset (Language.append_mem_mul hd hl) (kstar_mul_le_kstar (a := lives))

/-- A word of whole lives and one that has begun goes on to another such word. -/
theorem Progress.word_split {st st' : Status} {n n' : Nat} {w v : List Mark}
    (h : Progress st n w st' n') (hv : ∃ done ∈ KStar.kstar lives, v = done ++ st.begun) :
    ∃ done ∈ KStar.kstar lives, v ++ w = done ++ st'.begun := by
  obtain ⟨done, hdone, rfl⟩ := hv
  have hwhole : ∀ life ∈ lives, ∃ done' ∈ KStar.kstar lives,
      done ++ life = done' ++ Status.begun .disconnected := by
    intro life hlife
    exact ⟨done ++ life, append_mem_kstar hdone hlife, (List.append_nil _).symm⟩
  cases h with
  | none => exact ⟨done, hdone, by rw [List.append_nil]⟩
  | attempt => exact ⟨done, hdone, by simp [Status.begun]⟩
  | success => exact ⟨done, hdone, by simp [Status.begun]⟩
  | failure =>
    rw [List.append_assoc]
    exact hwhole _ (.inl rfl)
  | closed =>
    rw [List.append_assoc]
    exact hwhole _ (.inr (.inl rfl))
  | disconnect =>
    rw [List.append_assoc]
    exact hwhole _ (.inr (.inr rfl))

theorem word_split (o : ConnectOptions) (as : List Action) :
    ∃ done ∈ KStar.kstar lives,
      word ((new o).moves as) = done ++ ((new o).run as).status.begun := by
  induction as using List.reverseRecOn with
  | nil => exact ⟨[], Language.nil_mem_kstar lives, rfl⟩
  | append_singleton as a ih =>
    rw [run_concat, moves_concat, word_concat]
    exact (Move.progress (m := ⟨(new o).run as, a⟩) (status_ne_disconnecting o as)).word_split ih

theorem begun_completes (st : Status) : st.begun = [] ∨ ∃ life ∈ lives, st.begun <+: life := by
  cases st with
  | disconnected => exact .inl rfl
  | disconnecting => exact .inl rfl
  | connecting => exact .inr ⟨_, .inl rfl, [.failure], rfl⟩
  | connected => exact .inr ⟨_, .inr (.inl rfl), [.closed], rfl⟩

/-! ### Each attempt on its own -/

/-- The lives of all attempts so far, by number: those before the latest are over, the latest is as
far as the status says, and later ones have not begun. -/
structure Lives (f : Nat → List Mark) (st : Status) (n : Nat) : Prop where
  past : ∀ k, 1 ≤ k → k < n → f k ∈ lives
  whole : st = .disconnected → 1 ≤ n → f n ∈ lives
  begun : st ≠ .disconnected → 1 ≤ n ∧ f n = st.begun
  ahead : ∀ k, n < k → f k = []

namespace Lives

variable {f g : Nat → List Mark} {st st' : Status} {n n' : Nat} {w : List Mark}

theorem latest (h : Lives f st n) (hst : st ≠ .disconnected)
    (hg : ∀ k, g k = f k ++ if n = k then w else [])
    (hwhole : st' = .disconnected → st.begun ++ w ∈ lives)
    (hbegun : st' ≠ .disconnected → st.begun ++ w = st'.begun) : Lives g st' n := by
  obtain ⟨hn, hf⟩ := h.begun hst
  -- The marks of the move belong to the latest attempt; all others stay as they are.
  have hlatest : g n = st.begun ++ w := by rw [hg, if_pos rfl, hf]
  have hother : ∀ k, n ≠ k → g k = f k := by
    intro k hk
    rw [hg, if_neg hk, List.append_nil]
  refine ⟨?_, ?_, ?_, ?_⟩
  · intro k hk hlt
    rw [hother k (by omega)]
    exact h.past k hk hlt
  · intro hd _
    rw [hlatest]
    exact hwhole hd
  · intro hd
    rw [hlatest]
    exact ⟨hn, hbegun hd⟩
  · intro k hlt
    rw [hother k (by omega)]
    exact h.ahead k hlt

theorem next (h : Lives f .disconnected n)
    (hg : ∀ k, g k = f k ++ if n + 1 = k then [.attempt] else []) :
    Lives g .connecting (n + 1) := by
  have hother : ∀ k, n + 1 ≠ k → g k = f k := by
    intro k hk
    rw [hg, if_neg hk, List.append_nil]
  refine ⟨?_, ?_, ?_, ?_⟩
  · intro k hk hlt
    rw [hother k (by omega)]
    rcases Nat.lt_succ_iff_lt_or_eq.mp hlt with hlt | rfl
    · exact h.past k hk hlt
    · exact h.whole rfl hk
  · intro hd
    cases hd
  · intro _
    refine ⟨Nat.le_add_left 1 n, ?_⟩
    rw [hg, if_pos rfl, h.ahead (n + 1) (Nat.lt_succ_self n)]
    rfl
  · intro k hlt
    rw [hother k (by omega)]
    exact h.ahead k (by omega)

theorem progress (h : Lives f st n) (hp : Progress st n w st' n')
    (hg : ∀ k, g k = f k ++ if n' = k then w else []) : Lives g st' n' := by
  cases hp with
  | none =>
    have hfg : g = f := by
      funext k
      rw [hg, ite_self, List.append_nil]
    rw [hfg]
    exact h
  | attempt => exact h.next hg
  | success => exact h.latest (by decide) hg (fun hd => by cases hd) fun _ => rfl
  | failure => exact h.latest (by decide) hg (fun _ => .inl rfl) fun hd => absurd rfl hd
  | closed => exact h.latest (by decide) hg (fun _ => .inr (.inl rfl)) fun hd => absurd rfl hd
  | disconnect => exact h.latest (by decide) hg (fun _ => .inr (.inr rfl)) fun hd => absurd rfl hd

end Lives

theorem lives_run (o : ConnectOptions) (as : List Action) :
    Lives (fun k => life k ((new o).moves as)) ((new o).run as).status
      ((new o).run as).attempt := by
  induction as using List.reverseRecOn with
  | nil =>
    refine ⟨?_, ?_, fun hd => absurd rfl hd, fun _ _ => rfl⟩
    · intro k hk hlt
      cases hlt
    · intro _ hn
      cases hn
  | append_singleton as a ih =>
    rw [run_concat, moves_concat]
    have hp := Move.progress (m := ⟨(new o).run as, a⟩) (status_ne_disconnecting o as)
    exact ih.progress hp fun k => life_concat k _ _

/-- In every run, what the application sees of its connections is a beginning of a word of whole
lives, and the status after it is told by the last mark. An attempt can be begun exactly when there
is no connection, and a refusal carries the code that the server gave. Each attempt on its own lives
one of the three lives, unless it is the latest, which is as far as the status says. -/
theorem connections_live (o : ConnectOptions) (as : List Action) :
    let s := (new o).run as
    let ms := (new o).moves as
    (∃ whole ∈ KStar.kstar lives, word ms <+: whole) ∧
    s.status = .afterMark (word ms).getLast? ∧
    (∀ a generated, a.input = .startConnect generated →
      ((∃ output, (Move.mk s a).result = .ok output) ↔ s.status = .disconnected)) ∧
    (∀ a attempt connack e, a.input = .report attempt (.received (.connack connack)) →
      .connectionFailure e ∈ (Move.mk s a).events → e = .connectionRefused connack.returnCode) ∧
    ∀ k, 1 ≤ k → k ≤ s.attempt → life k ms ∈ lives ∨
      k = s.attempt ∧ (s.status = .connecting ∧ life k ms = [.attempt] ∨
        s.status = .connected ∧ life k ms = [.attempt, .success]) := by
  intro s ms
  refine ⟨?_, status_eq_afterMark o as, ?_, ?_, ?_⟩
  · obtain ⟨done, hdone, hw⟩ := word_split o as
    rcases begun_completes s.status with hnil | ⟨life, hlife, hprefix⟩
    · exact ⟨done, hdone, by rw [hw, hnil, List.append_nil]⟩
    · refine ⟨done ++ life, append_mem_kstar hdone hlife, ?_⟩
      rw [hw]
      exact (List.prefix_append_right_inj done).mpr hprefix
  · intro a generated hin
    exact ((Move.mk s a).transition_of hin).started_iff
  · intro a attempt connack e hin he
    exact ((Move.mk s a).transition_of hin).failure_of_connack he
  · intro k hk hle
    have h := lives_run o as
    rcases Nat.lt_or_eq_of_le hle with hlt | rfl
    · exact .inl (h.past k hk hlt)
    · cases hst : s.status with
      | disconnected => exact .inl (h.whole hst hk)
      | connecting =>
        have hbegun := (h.begun (by rw [hst]; decide)).2
        rw [hst] at hbegun
        exact .inr ⟨rfl, .inl ⟨rfl, hbegun⟩⟩
      | connected =>
        have hbegun := (h.begun (by rw [hst]; decide)).2
        rw [hst] at hbegun
        exact .inr ⟨rfl, .inr ⟨rfl, hbegun⟩⟩
      | disconnecting => exact absurd hst (status_ne_disconnecting o as)

example :
    word ((new {}).moves ([.startConnect "", .request .disconnect, .startConnect "",
      .report 2 (.opened 0), .report 2 (.received (.connack ⟨false, .accepted⟩)),
      .report 2 .closed].map fun input => ⟨input, 0, none⟩)) =
    [.attempt, .failure, .attempt, .success, .closed] := by
  cbv

end Mqtt.Session
