import Mqtt.Simulation.Scenario
import Mqtt.Client.Interleaving
import Mqtt.Proofs.Activities

/-!
# Housekeeping in a world

Whatever comes of a client's activity, a world looks after it: packets go to their links, tasks that
can read are woken, and connect calls in the background become tasks. None of this takes a task away
from the queue or changes a task that there is, and the clock stands still.
-/

namespace Mqtt

/-- Whether something happens in a round of the client. That a connect call in the background ends
is noted by the world itself. -/
def Moment.isOfRound : Moment → Bool
  | .connectEnded _ => false
  | _ => true

namespace World

/-- What a world makes of another one without taking anything from its tasks. -/
structure Tended (w w' : World) : Prop where
  now : w'.now = w.now
  links : w.links.size ≤ w'.links.size
  tasks : ∀ (id : TaskId) (task : Task), w'.tasks[id]? = some task →
    w.tasks[id]? = some task ∨ task = .connect
  ready : ∀ id ∈ w.ready, id ∈ w'.ready
  alarms : ∀ alarm ∈ w'.alarms, alarm ∈ w.alarms

variable {w w' w'' : World}

theorem Tended.trans (h : Tended w w') (h' : Tended w' w'') : Tended w w'' where
  now := h'.now.trans h.now
  links := Nat.le_trans h.links h'.links
  tasks id task ht := (h'.tasks id task ht).elim (h.tasks id task) .inr
  ready id hid := h'.ready id (h.ready id hid)
  alarms alarm ha := h.alarms alarm (h'.alarms alarm ha)

/-- Links and what is gathered for a tester may change in any way. -/
theorem tended_of_eq (hn : w'.now = w.now) (hl : w.links.size ≤ w'.links.size)
    (ht : w'.tasks = w.tasks) (hr : w'.ready = w.ready) (ha : w'.alarms = w.alarms) :
    Tended w w' where
  now := hn
  links := hl
  tasks _ _ h := .inl (ht ▸ h)
  ready _ h := hr ▸ h
  alarms _ h := ha ▸ h

theorem Tended.refl (w : World) : Tended w w := tended_of_eq rfl (Nat.le_refl _) rfl rfl rfl

theorem mem_ready_wake (w : World) (id : TaskId) : id ∈ (w.wake id).ready := by
  unfold wake
  split
  · next h => exact List.contains_iff_mem.mp h
  · exact List.mem_append_right _ (List.mem_singleton_self _)

theorem ready_subset_wake (w : World) (id : TaskId) : w.ready ⊆ (w.wake id).ready := by
  unfold wake
  split
  · exact List.Subset.refl _
  · exact List.subset_append_left _ _

theorem wake_eq (w : World) (id : TaskId) : w.wake id = { w with ready := (w.wake id).ready } := by
  unfold wake
  split <;> rfl

theorem tended_wake (w : World) (id : TaskId) : Tended w (w.wake id) := by
  have hready := w.ready_subset_wake id
  rw [wake_eq] at hready ⊢
  exact { Tended.refl w with ready := hready }

theorem tended_standBack (w : World) (id : TaskId) : Tended w (w.standBack id) where
  now := ((w.rest id).tended_wake id).now
  links := ((w.rest id).tended_wake id).links
  tasks := ((w.rest id).tended_wake id).tasks
  ready j hj := by
    by_cases heq : j = id
    · rw [heq]
      exact mem_ready_wake _ id
    · exact ready_subset_wake _ id ((List.mem_erase_of_ne heq).mpr hj)
  alarms := ((w.rest id).tended_wake id).alarms

theorem tended_spend_disarm (w : World) (id : TaskId) : Tended w (w.disarm id).spend where
  now := rfl
  links := Nat.le_refl _
  tasks _ _ h := .inl h
  ready _ h := h
  alarms _ h := (List.mem_filter.mp h).1

theorem tended_wakeReader (w : World) (link : TransportId) : Tended w (w.wakeReader link) := by
  unfold wakeReader
  split
  · exact .refl w
  · split
    · split
      · exact w.tended_wake _
      · exact .refl w
    · exact .refl w
    · exact .refl w

theorem tended_modifyLink (w : World) (link : TransportId) (f : Link → Link) :
    Tended w (w.modifyLink link f) := by
  have hlinks : Tended w { w with links := w.links.modify link f } :=
    tended_of_eq rfl (Nat.le_of_eq Array.size_modify.symm) rfl rfl rfl
  exact hlinks.trans (tended_wakeReader _ link)

theorem tended_foldl_wake (alarms : List Alarm) (w : World) :
    Tended w (alarms.foldl (fun w alarm => w.wake alarm.task) w) := by
  induction alarms generalizing w with
  | nil => exact .refl w
  | cons alarm alarms ih => exact (w.tended_wake alarm.task).trans (ih _)

theorem tended_spawn_connect (w : World) : Tended w (w.spawn .connect) where
  now := rfl
  links := Nat.le_refl _
  tasks id task ht := by
    rw [spawn, Array.getElem?_push] at ht
    split at ht
    · exact .inr (Option.some.inj ht).symm
    · exact .inl ht
  ready id hid := List.mem_append_left _ hid
  alarms _ h := h

theorem tended_carryOut (w : World) (e : Effect) : Tended w (w.carryOut e) := by
  cases e with
  | io io =>
    have hio : Tended w { w with io := w.io ++ [io] } :=
      tended_of_eq rfl (Nat.le_refl _) rfl rfl rfl
    exact hio.trans (tended_modifyLink _ io.transport _)
  | spawnConnect => exact w.tended_spawn_connect

theorem tended_foldl_carryOut (es : List Effect) (w : World) : Tended w (es.foldl carryOut w) := by
  induction es generalizing w with
  | nil => exact .refl w
  | cons e es ih => exact (w.tended_carryOut e).trans (ih _)

theorem tended_enter {α : Type} (w : World) (act : Round → α × Round) :
    Tended w (w.enter act).2 := by
  let r := (act (w.client.roundIn w.env)).2
  have hround : Tended w { w with
      client := r.client, journal := w.journal ++ r.journal, log := w.log ++ r.log } :=
    tended_of_eq rfl (Nat.le_refl _) rfl rfl rfl
  exact hround.trans (tended_foldl_carryOut r.effects _)

/-! ### What a world shows -/

/-- Nothing is done that a tester could tell, and nothing to the client. -/
structure Unnoticed (w w' : World) : Prop where
  client : w'.client = w.client
  io : w'.io = w.io
  journal : w'.journal.filter Moment.isOfRound = w.journal.filter Moment.isOfRound
  log : w'.log = w.log

theorem Unnoticed.refl (w : World) : Unnoticed w w := ⟨rfl, rfl, rfl, rfl⟩

theorem Unnoticed.trans (h : Unnoticed w w') (h' : Unnoticed w' w'') : Unnoticed w w'' where
  client := h'.client.trans h.client
  io := h'.io.trans h.io
  journal := h'.journal.trans h.journal
  log := h'.log.trans h.log

theorem unnoticed_wake (w : World) (id : TaskId) : Unnoticed w (w.wake id) := by
  rw [wake_eq]
  exact ⟨rfl, rfl, rfl, rfl⟩

theorem unnoticed_foldl_wake (alarms : List Alarm) (w : World) :
    Unnoticed w (alarms.foldl (fun w alarm => w.wake alarm.task) w) := by
  induction alarms generalizing w with
  | nil => exact .refl w
  | cons alarm alarms ih => exact (w.unnoticed_wake alarm.task).trans (ih _)

theorem unnoticed_wakeReader (w : World) (link : TransportId) :
    Unnoticed w (w.wakeReader link) := by
  unfold wakeReader
  split
  · exact .refl w
  · split
    · split
      · exact w.unnoticed_wake _
      · exact .refl w
    · exact .refl w
    · exact .refl w

theorem unnoticed_standBack (w : World) (id : TaskId) : Unnoticed w (w.standBack id) := by
  have hrest : Unnoticed w (w.rest id) := ⟨rfl, rfl, rfl, rfl⟩
  exact hrest.trans ((w.rest id).unnoticed_wake id)

theorem unnoticed_modifyLink (w : World) (link : TransportId) (f : Link → Link) :
    Unnoticed w (w.modifyLink link f) := by
  have hlinks : Unnoticed w { w with links := w.links.modify link f } := ⟨rfl, rfl, rfl, rfl⟩
  exact hlinks.trans (unnoticed_wakeReader _ link)

theorem unnoticed_foldl_carryOut (es : List Effect) (w : World) :
    Unnoticed { w with io := w.io ++ es.filterMap Effect.io? } (es.foldl carryOut w) := by
  induction es generalizing w with
  | nil => exact ⟨rfl, (List.append_nil _).symm, rfl, rfl⟩
  | cons e es ih =>
    have hrest := ih (w.carryOut e)
    cases e with
    | io io =>
      have hio := unnoticed_modifyLink { w with io := w.io ++ [io] } io.transport (·.absorb io)
      refine ⟨hrest.client.trans hio.client, hrest.io.trans ?_, hrest.journal.trans hio.journal,
        hrest.log.trans hio.log⟩
      show (w.carryOut (.io io)).io ++ es.filterMap Effect.io? = _
      rw [carryOut, hio.io, List.append_assoc]
      rfl
    | spawnConnect => exact ⟨hrest.client, hrest.io, hrest.journal, hrest.log⟩

theorem unnoticed_enter {α : Type} (w : World) (act : Round → α × Round) :
    let r := (act (w.client.roundIn w.env)).2
    Unnoticed { w with
      client := r.client
      io := w.io ++ r.io
      journal := w.journal ++ r.journal
      log := w.log ++ r.log } (w.enter act).2 := by
  intro r
  exact unnoticed_foldl_carryOut r.effects { w with
    client := r.client
    journal := w.journal ++ r.journal
    log := w.log ++ r.log }

/-- What a world shows is what has come of some activities. -/
structure Shows (w : World) (deeds : List Deed) : Prop where
  io : w.io = deeds.flatMap (·.round.io)
  journal : w.journal.filter Moment.isOfRound =
    (deeds.flatMap (·.round.journal)).filter Moment.isOfRound
  log : w.log = deeds.flatMap (·.round.log)

theorem Shows.unnoticed {deeds : List Deed} (h : w.Shows deeds) (hu : Unnoticed w w') :
    w'.Shows deeds := ⟨hu.io.trans h.io, hu.journal.trans h.journal, hu.log.trans h.log⟩

theorem Shows.enter {deeds : List Deed} (h : w.Shows deeds) {α : Type} {act : Round → α × Round}
    {d : Deed} (hd : (act (w.client.roundIn w.env)).2 = d.round) :
    (w.enter act).2.Shows (deeds ++ [d]) := by
  have hu := w.unnoticed_enter act
  rw [hd] at hu
  refine ⟨hu.io.trans ?_, hu.journal.trans ?_, hu.log.trans ?_⟩
  · rw [List.flatMap_append, List.flatMap_singleton, ← h.io]
  · rw [List.flatMap_append, List.flatMap_singleton, List.filter_append, List.filter_append,
      ← h.journal]
  · rw [List.flatMap_append, List.flatMap_singleton, ← h.log]

end World

end Mqtt
