import Mathlib.Data.List.Induction
import Mqtt.Proofs.Account

/-!
# Every operation is settled once

The accounts of single moves add up: `account_moves` says what a run does to the operation under an
identifier as long as that is not granted again, and `standsOpen_of_pending` finds the request
behind whatever is pending. Together they match each request with its settlement over a whole run.
-/

namespace Mqtt.Session

namespace Move

variable (m : Move)

def granted? : Option UInt16 := grantedBy m.result

def opened? : Option Abandoned := m.granted?.bind m.action.input.opens?

end Move

def settlements (id : UInt16) (ms : List Move) : List Event := settling id (ms.flatMap Move.events)

/-- No move among some is granted the identifier. -/
def Ungranted (id : UInt16) (ms : List Move) : Prop := ∀ m ∈ ms, m.granted? ≠ some id

/-- An operation that the moves since its request have settled exactly once, or that they have not
settled and is pending in the session they lead to. -/
def SettledOrPending (operation : Abandoned) (ms : List Move) (s : Session) : Prop :=
  (∃ e, settlements operation.packetId ms = [e] ∧ e.Settles operation ∧
    ∀ other ∈ s.inflight.pending, other.packetId ≠ operation.packetId) ∨
  settlements operation.packetId ms = [] ∧ operation ∈ s.inflight.pending

/-- Some request of the run opened the operation, and nothing since has settled it or been granted
its identifier. -/
def StandsOpen (o : ConnectOptions) (as : List Action) (operation : Abandoned) : Prop :=
  ∃ before a after, as = before ++ a :: after ∧
    (Move.mk ((new o).run before) a).opened? = some operation ∧
    Ungranted operation.packetId ((Move.mk ((new o).run before) a).after.moves after) ∧
    settlements operation.packetId ((Move.mk ((new o).run before) a).after.moves after) = []

theorem Move.granted?_of_opened? {m : Move} {operation : Abandoned}
    (h : m.opened? = some operation) : m.granted? = some operation.packetId := by
  obtain ⟨id, hg, ho⟩ := Option.bind_eq_some_iff.mp h
  rw [hg, Input.packetId_opens? ho]

theorem settlements_cons (id : UInt16) (m : Move) (ms : List Move) :
    settlements id (m :: ms) = settling id m.events ++ settlements id ms := by
  simp only [settlements, settling, List.flatMap_cons, List.filter_append]

theorem settlements_append (id : UInt16) (ms ms' : List Move) :
    settlements id (ms ++ ms') = settlements id ms ++ settlements id ms' := by
  simp only [settlements, settling, List.flatMap_append, List.filter_append]

theorem Move.account (m : Move) (hm : Bookkeeping m.before) (id : UInt16) :
    Account id (m.before.inflight.operation? id) (settling id m.events) m.granted?
      (m.after.inflight.operation? id) :=
  (m.transition.account (hm.atTime _) id).1

theorem Move.bookkeeping (m : Move) (hm : Bookkeeping m.before) : Bookkeeping m.after :=
  m.transition.bookkeeping (hm.atTime _)

theorem Move.operation?_after {m : Move} (hm : Bookkeeping m.before) {id : UInt16}
    (hg : m.granted? = some id) : m.after.inflight.operation? id = m.opened? := by
  rw [Move.opened?, hg, Option.bind_some]
  exact (m.transition.account (hm.atTime _) id).2 hg

/-! ### Whole runs -/

/-- While an identifier is not granted, at most its one operation is settled, and once. -/
theorem account_moves {s : Session} (hs : Bookkeeping s) {id : UInt16} (as : List Action)
    (hg : Ungranted id (s.moves as)) :
    Account id (s.inflight.operation? id) (settlements id (s.moves as)) none
      ((s.run as).inflight.operation? id) := by
  induction as generalizing s with
  | nil => exact .kept (by simp)
  | cons a as ih =>
    rw [moves_cons] at hg
    have hrest := ih (Move.bookkeeping ⟨s, a⟩ hs) fun x hx => hg x (List.mem_cons_of_mem _ hx)
    rw [moves_cons, settlements_cons, run_cons]
    exact (Move.account ⟨s, a⟩ hs id).trans (hg ⟨s, a⟩ List.mem_cons_self) hrest

theorem standsOpen_of_pending (o : ConnectOptions) (as : List Action) {operation : Abandoned}
    (ho : ((new o).run as).inflight.operation? operation.packetId = some operation) :
    StandsOpen o as operation := by
  -- From the end of the run: either the last move opened the operation, or it was pending before.
  induction as using List.reverseRecOn with
  | nil =>
    change Inflight.operation? { held := ∅ } operation.packetId = _ at ho
    rw [Inflight.operation?_empty] at ho
    cases ho
  | append_singleton as a ih =>
    have hm := bookkeeping_run o as
    rw [run_concat] at ho
    have ha := Move.account ⟨(new o).run as, a⟩ hm operation.packetId
    by_cases hg : (Move.mk ((new o).run as) a).granted? = some operation.packetId
    · rw [Move.operation?_after hm hg] at ho
      exact ⟨as, a, [], rfl, ho, fun x hx => absurd hx List.not_mem_nil, rfl⟩
    · rw [ho] at ha
      obtain ⟨hop, hse⟩ := ha.eq_some_before hg
      obtain ⟨before, b, after, rfl, hob, hn, hnone⟩ := ih hop
      refine ⟨before, b, after ++ [a], by simp, hob, ?_, ?_⟩
      · intro x hx
        rw [moves_append, ← run_cons, ← run_append] at hx
        rcases List.mem_append.mp hx with hx | hx
        · exact hn x hx
        · cases List.mem_singleton.mp hx
          exact hg
      · rw [moves_append, settlements_append, hnone, ← run_cons, ← run_append, List.nil_append]
        change settlements _ [Move.mk _ a] = []
        rw [settlements_cons, hse]
        rfl

/-- From its request on, an operation is settled once or pending. -/
theorem settledOrPending {s : Session} (hs : Bookkeeping s) {operation : Abandoned}
    (ho : s.inflight.operation? operation.packetId = some operation) (as : List Action)
    (hn : Ungranted operation.packetId (s.moves as)) :
    SettledOrPending operation (s.moves as) (s.run as) := by
  have hlast : Bookkeeping (s.run as) := run_induction hs (fun m hm => m.bookkeeping hm) as
  have hacc := account_moves hs as hn
  rw [ho] at hacc
  rcases hacc.stays_or_settled with ⟨hse, hop⟩ | ⟨e, hse, he, hop⟩
  · exact .inr ⟨hse, (hlast.orderly.mem_pending_iff operation).mpr hop⟩
  · refine .inl ⟨e, hse, he, ?_⟩
    intro other hin hid
    have hsome := (hlast.orderly.mem_pending_iff other).mp hin
    rw [hid, hop] at hsome
    cases hsome

theorem Move.operation?_of_granted {m : Move} (hm : Bookkeeping m.before) {id : UInt16}
    (hg : m.granted? = some id) : m.before.inflight.operation? id = none := by
  have ha := m.account hm id
  rw [hg] at ha
  exact ha.eq_none_before

theorem Move.settles {m : Move} (hm : Bookkeeping m.before) {e : Event} {id : UInt16}
    (he : e ∈ m.events) (hid : e.settled? = some id) :
    settling id m.events = [e] ∧
      ∃ operation, m.before.inflight.operation? id = some operation ∧ e.Settles operation := by
  have hin : e ∈ settling id m.events := by
    rw [settling, List.mem_filter]
    exact ⟨he, by simp [hid]⟩
  exact (m.account hm id).settles hin

/-- In every run, from its request on and until its identifier is granted again, an operation is
settled exactly once, by an event of its own kind, or pending; when the identifier is granted again
it has been settled. No event settles anything but an operation that stands open. A publish that
needs no answer is never settled, and every publish that is granted an identifier is written with it
and reported as sent in that same move, and in no other. -/
theorem operations_settled_once (o : ConnectOptions) (as : List Action) (a : Action) :
    let m : Move := ⟨(new o).run as, a⟩
    (∀ operation, m.opened? = some operation → ∀ bs,
      Ungranted operation.packetId (m.after.moves bs) →
      SettledOrPending operation (m.after.moves bs) (m.after.run bs) ∧
      ∀ b, (Move.mk (m.after.run bs) b).granted? = some operation.packetId →
        ∃ e, settlements operation.packetId (m.after.moves bs) = [e] ∧ e.Settles operation) ∧
    (∀ e ∈ m.events, ∀ id, e.settled? = some id → settling id m.events = [e] ∧
      ∃ operation, operation.packetId = id ∧ e.Settles operation ∧ StandsOpen o as operation) ∧
    (∀ packet id, a.input = .request (.publish packet) → m.granted? = some id →
      m.events = [.publishSent id] ∧
      (∃ transport, m.io = [.wrote transport (.publish { packet with packetId := id })]) ∧
      (packet.qos = .atMostOnce → ∀ bs, Ungranted id (m.after.moves bs) →
        settlements id (m.after.moves bs) = [])) ∧
    (∀ id, .publishSent id ∈ m.events →
      m.granted? = some id ∧ ∃ packet, a.input = .request (.publish packet)) := by
  intro m
  have hm : Bookkeeping m.before := bookkeeping_run o as
  have hafter := m.bookkeeping hm
  refine ⟨?_, ?_, ?_, ?_⟩
  · intro operation hop bs hn
    have hopen : m.after.inflight.operation? operation.packetId = some operation :=
      (Move.operation?_after hm (Move.granted?_of_opened? hop)).trans hop
    have hsettled := settledOrPending hafter hopen bs hn
    refine ⟨hsettled, ?_⟩
    intro b hg
    have hlast : Bookkeeping (m.after.run bs) :=
      run_induction hafter (fun m hm => m.bookkeeping hm) bs
    have hnone := Move.operation?_of_granted (m := ⟨m.after.run bs, b⟩) hlast hg
    rcases hsettled with ⟨e, he, hs, -⟩ | ⟨-, hin⟩
    · exact ⟨e, he, hs⟩
    · have hsome := (hlast.orderly.mem_pending_iff operation).mp hin
      rw [hnone] at hsome
      cases hsome
  · intro e he id hid
    obtain ⟨hone, operation, hop, hs⟩ := Move.settles hm he hid
    have hpid := hm.orderly.packetId_operation? hop
    subst hpid
    exact ⟨hone, operation, rfl, hs, standsOpen_of_pending o as hop⟩
  · intro packet id hin hg
    have hin' : m.action.input = .request (.publish packet) := hin
    obtain ⟨hevents, hio⟩ := (m.transition_of hin').publish_granted hg
    refine ⟨hevents, hio, ?_⟩
    intro hq bs hn
    have hnone : m.after.inflight.operation? id = none := by
      rw [Move.operation?_after hm hg, Move.opened?, hg, hin', Option.bind_some]
      simp only [Input.opens?, hq, if_true]
    have hacc := account_moves hafter bs hn
    rw [hnone] at hacc
    exact hacc.eq_nil
  · intro id he
    exact m.transition.granted_of_publishSent he

end Mqtt.Session
