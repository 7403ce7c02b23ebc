import Mathlib.Data.List.DropRight
import Mathlib.Data.List.Induction
import Mqtt.Proofs.Holding
import Mqtt.Proofs.Moves

/-!
# Messages of the highest level are delivered exactly once

What is held after a run can be read off its moves: `heldSince` goes back to the last delivery or
clearing, and the first message that has come in since is the one that the next release delivers.
-/

namespace Mqtt.Session

namespace Move

variable (m : Move)

def accepted? : Option Packet := m.before.accepts? m.action.input

def offered? (id : UInt16) : Option Publish := m.before.offered? m.action.input id

def released : List Publish := m.events.filterMap Event.released?

def releases (id : UInt16) : Bool := m.released.any (·.packetId = id)

def clears : Bool := m.before.clears m.action.input m.after

end Move

/-- The moves since held messages were last cleared or one was last delivered under the
identifier. -/
def heldSince (id : UInt16) (ms : List Move) : List Move :=
  ms.rtakeWhile fun m => !(m.clears || m.releases id)

/-- The first message that has come in under an identifier since then. -/
def firstOffered? (id : UInt16) (ms : List Move) : Option Publish :=
  (heldSince id ms).findSome? (·.offered? id)

namespace Move

variable {m : Move}

theorem releases_eq_false_iff {id : UInt16} :
    m.releases id = false ↔ m.released.filter (·.packetId = id) = [] := by
  rw [releases, List.any_eq_false, List.filter_eq_nil_iff]

theorem custody (hm : Holding m.before) (hc : m.clears = false) (id : UInt16) :
    Custody m.before.inflight.held[id]? (m.offered? id) (m.released.filter (·.packetId = id))
      m.after.inflight.held[id]? := m.transition.custody (hm.atTime _) hc id

theorem held_of_clears (hm : Holding m.before) (hc : m.clears = true) :
    m.after.inflight.held = ∅ := m.transition.cleared (hm.atTime _) hc

theorem held_of_releases (hm : Holding m.before) (hc : m.clears = false) {id : UInt16}
    (hr : m.releases id = true) : m.after.inflight.held[id]? = none := by
  apply (custody hm hc id).eq_none
  rw [Ne, ← releases_eq_false_iff, hr]
  decide

theorem held_of_not_releases (hm : Holding m.before) (hc : m.clears = false) {id : UInt16}
    (hr : m.releases id = false) :
    m.after.inflight.held[id]? = m.before.inflight.held[id]?.or (m.offered? id) := by
  have hcus := custody hm hc id
  rw [releases_eq_false_iff.mp hr] at hcus
  exact hcus.eq_or

end Move

theorem holding_run (o : ConnectOptions) (as : List Action) : Holding ((new o).run as) :=
  run_induction (holding_of_empty rfl) (fun m hm => m.transition.holding (hm.atTime _)) as

theorem options_run (o : ConnectOptions) (as : List Action) : ((new o).run as).options = o :=
  run_induction (P := fun s => s.options = o) rfl
    (fun m hm => m.transition.options_eq.trans hm) as

theorem firstOffered?_concat (id : UInt16) (ms : List Move) (m : Move) :
    firstOffered? id (ms ++ [m]) =
      if m.clears || m.releases id then none else (firstOffered? id ms).or (m.offered? id) := by
  unfold firstOffered? heldSince
  by_cases h : m.clears || m.releases id
  · rw [List.rtakeWhile_concat_neg _ _ _ (by simp [h]), if_pos h]
    rfl
  · rw [List.rtakeWhile_concat_pos _ _ _ (by simp [h]), if_neg h, List.findSome?_append,
      List.findSome?_singleton]

/-- What is held after a run is the first message that has come in since the last delivery or
clearing. -/
theorem held_run (o : ConnectOptions) (as : List Action) (id : UInt16) :
    ((new o).run as).inflight.held[id]? = firstOffered? id ((new o).moves as) := by
  induction as using List.reverseRecOn with
  | nil => rfl
  | append_singleton as a ih =>
    have hm : Holding (Move.mk ((new o).run as) a).before := holding_run o as
    rw [run_concat, moves_concat, firstOffered?_concat, ← ih]
    change _ = if _ then none else
      (Move.mk ((new o).run as) a).before.inflight.held[id]?.or _
    generalize Move.mk ((new o).run as) a = m at hm ⊢
    by_cases hc : m.clears
    · rw [Move.held_of_clears hm hc, hc, Bool.true_or, if_pos rfl]
      rfl
    · have hc' : m.clears = false := by simpa using hc
      by_cases hr : m.releases id
      · rw [Move.held_of_releases hm hc' hr, hr, Bool.or_true, if_pos rfl]
      · have hr' : m.releases id = false := by simpa using hr
        rw [Move.held_of_not_releases hm hc' hr', hc', hr', Bool.or_false,
          if_neg Bool.false_ne_true]

/-- With clean sessions, what has come in since the last clearing has come in on the connection that
there is now. -/
theorem same_connection (o : ConnectOptions) (as : List Action) (id : UInt16)
    (hc : o.cleanSession = true) : ∀ m ∈ heldSince id ((new o).moves as),
      m.before.status = .connected →
      ((new o).run as).status = .connected ∧ m.before.attempt = ((new o).run as).attempt := by
  induction as using List.reverseRecOn with
  | nil => exact fun m hm => absurd hm List.not_mem_nil
  | append_singleton as a ih =>
    intro x hx hst
    rw [moves_concat, heldSince, List.rtakeWhile_concat] at hx
    split_ifs at hx with hkeep
    · -- Up to the last move the connection was that of `x`; a move that clears nothing ends none.
      have hnow : ((new o).run as).status = .connected ∧
          x.before.attempt = ((new o).run as).attempt := by
        rcases List.mem_append.mp hx with hx | hx
        · exact ih x hx hst
        · cases List.mem_singleton.mp hx
          exact ⟨hst, rfl⟩
      have hclears : (Move.mk ((new o).run as) a).clears = false := by
        rw [Bool.not_eq_true', Bool.or_eq_false_iff] at hkeep
        exact hkeep.1
      have hclean : ((new o).run as).options.cleanSession := by
        rw [options_run]
        exact hc
      have hend := (clears_eq_false hclears hclean).2.resolve_left (by simp [hnow.1])
      obtain ⟨hst', ha⟩ := (Move.mk ((new o).run as) a).transition.same_attempt hnow.1 hend
      rw [run_concat]
      exact ⟨hst', hnow.2.trans ha.symm⟩
    · cases hx

/-- In every run, a message of the highest level is delivered only when the server releases its
identifier and the release has been acknowledged. An acknowledged release delivers the first message
that has come in under the identifier since the last delivery or clearing, if there is one, and
nothing else; one that cannot be acknowledged delivers nothing. Held messages are cleared only where
sessions do not outlive connections; nothing else than a delivery or a clearing takes them away; and
there, nothing is held without a connection or delivered on another than it came in on. -/
theorem released_exactly_once (o : ConnectOptions) (as : List Action) (a : Action) :
    let m : Move := ⟨(new o).run as, a⟩
    let ms := (new o).moves as
    (∀ message ∈ m.released, m.accepted? = some (.pubrel message.packetId) ∧
      ∃ transport, m.io = [.wrote transport (.pubcomp message.packetId)]) ∧
    (∀ id, m.accepted? = some (.pubrel id) →
      (∃ transport, m.before.transport = some transport ∧ a.fault = none ∧
        m.result = .ok .done ∧ m.io = [.wrote transport (.pubcomp id)] ∧
        m.released = (firstOffered? id ms).toList) ∨
      ∃ e, m.before.writeError a.fault = some e ∧ m.result = .error e ∧
        m.io = m.before.lastWords (.pubcomp id) ∧ m.released = []) ∧
    (o.cleanSession = false → m.clears = false) ∧
    (m.clears = true → m.after.inflight.held = ∅) ∧
    (∀ (id : UInt16) (message : Publish), m.before.inflight.held[id]? = some message →
      message ∈ m.released ∨ m.clears = true ∨ m.after.inflight.held[id]? = some message) ∧
    (o.cleanSession = true → (m.before.status ≠ .connected → m.before.inflight.held = ∅) ∧
      ∀ id, ∀ x ∈ heldSince id ms, (x.offered? id).isSome →
        m.before.status = .connected ∧ x.before.attempt = m.before.attempt) := by
  intro m ms
  have hm : Holding m.before := holding_run o as
  have ho : m.before.options = o := options_run o as
  refine ⟨?_, ?_, ?_, ?_, ?_, ?_⟩
  · intro message hin
    exact m.transition.accepts?_of_released (hm.atTime _) hin
  · intro id hacc
    obtain ⟨hin, hst⟩ := accepts?_eq_some hacc
    have hheld := (m.transition_of hin).answered (hm.atTime _) hst
    change _ ∨ ∃ e, m.before.writeError _ = _ ∧ _ at hheld
    rw [← held_run]
    exact hheld
  · intro hc
    have hclean : m.before.options.cleanSession = false := by
      rw [ho]
      exact hc
    rw [Move.clears, clears, hclean, Bool.false_and]
  · exact Move.held_of_clears hm
  · intro id message hl
    by_cases hc : m.clears = true
    · exact .inr (.inl hc)
    · have hcus := Move.custody hm (by simpa using hc) id
      rw [hl] at hcus
      rcases hcus.delivered_or_held with hin | hafter
      · exact .inl (List.mem_filter.mp hin).1
      · exact .inr (.inr hafter)
  · intro hc
    have hclean : m.before.options.cleanSession := by
      rw [ho]
      exact hc
    refine ⟨hm.offline hclean, ?_⟩
    intro id x hx hsome
    apply same_connection o as id hc x hx
    by_contra hne
    rw [Move.offered?, offered?_of_not_connected hne] at hsome
    cases hsome

example :
    ((new {}).moves ([.startConnect "", .report 1 (.opened 0),
      .report 1 (.received (.connack ⟨false, .accepted⟩)),
      .report 1 (.received (.publish ⟨7, "a", .exactlyOnce, false, false, .empty⟩)),
      .report 1 (.received (.publish ⟨7, "b", .exactlyOnce, true, false, .empty⟩)),
      .report 1 (.received (.pubrel 7)), .report 1 (.received (.pubrel 7))].map
        fun input => ⟨input, 0, none⟩)).map Move.released =
    [[], [], [], [], [], [⟨7, "a", .exactlyOnce, false, false, .empty⟩], []] := by
  rfl

end Mqtt.Session
