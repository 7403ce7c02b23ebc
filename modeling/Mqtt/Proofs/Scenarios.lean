import Mqtt.Proofs.TaskTurns

/-!
# Scenarios

Whatever a tester does with a world, a vigil can take the same course. The tasks take their turns
until none has anything to do, and when the clock of a world goes on, so does that of the vigil. So
what holds in every vigil holds in the worlds that testers see.
-/

namespace Mqtt

open Session

/-! ### Time -/

/-- What a vigil goes on to, in time, meets a world. -/
def Met (options : ClientOptions) (shown : List Deed) (held : List Nat) (v : Vigil) (w : World) :
    Prop :=
  ∃ v', Relation.ReflTransGen Vigil.Goes v v' ∧ Staged options shown none held w v'

section

variable {options : ClientOptions} {shown : List Deed} {held : List Nat} {w w' : World} {v : Vigil}

theorem Matched.met (h : Matched options shown none held v w) : Met options shown held v w := by
  obtain ⟨u, hgo, -, hu⟩ := h
  exact ⟨u, hgo, hu⟩

theorem Met.trans {shown' : List Deed} {held' : List Nat} (h : Met options shown held v w)
    (h' : ∀ u, Staged options shown none held w u → Met options shown' held' u w') :
    Met options shown' held' v w' := by
  obtain ⟨u, hgo, hu⟩ := h
  obtain ⟨u', hgo', hu'⟩ := h' u hu
  exact ⟨u', hgo.trans hgo', hu'⟩

theorem Matched.now_eq (hv : Staged options shown none held w v)
    (h : Matched options shown none held v w') : w'.now = w.now := by
  obtain ⟨u, -, hclock, hu⟩ := h
  have heq := hu.clock.symm.trans (hclock.trans hv.clock)
  unfold World.micros at heq
  omega

theorem World.setClock_eq (w : World) (time : Nat) : w.setClock time =
    (w.alarms.filter fun alarm => alarm.due ≤ time).foldl (fun w alarm => w.wake alarm.task)
      { w with
        now := time
        alarms := w.alarms.filter fun alarm => !decide (alarm.due ≤ time) } := by
  unfold setClock
  rw [List.partition_eq_filter_filter]
  rfl

theorem World.now_setClock (w : World) (time : Nat) : (w.setClock time).now = time := by
  rw [setClock_eq]
  exact (tended_foldl_wake _ _).now

namespace Staged

theorem setClock (h : Staged options shown none held w v) {time : Nat} (hle : w.now ≤ time) :
    Met options shown held v (w.setClock time) := by
  have hclock : v.clock ≤ World.micros time := by
    rw [h.clock, World.micros, World.micros]
    omega
  have hstep : v.step (.advance (World.micros time)) = { v with clock := World.micros time } := by
    simp only [Vigil.step, if_pos hclock]
  refine ⟨_, .single ⟨.advance (World.micros time), hclock, hstep⟩, ?_⟩
  rw [World.setClock_eq]
  refine tend ?_ (World.tended_foldl_wake _ _) (World.unnoticed_foldl_wake _ _)
  refine { h with
    clock := rfl
    past := h.shows_of ⟨rfl, rfl, rfl, rfl⟩
    alarms := fun alarm hmem => ?_
    tasks := fun id task hid ht => ?_ }
  · simpa using (List.mem_filter.mp hmem).2
  · have hstands := h.tasks id task hid ht
    cases task <;> exact hstands

theorem passAlarms (h : Staged options shown none held w v) {time : Nat} (hle : w.now ≤ time)
    (jumps : Nat) :
    Met options shown held v (w.passAlarms jumps time) ∧ (w.passAlarms jumps time).now ≤ time := by
  induction jumps generalizing w v with
  | zero => exact ⟨h.matched.met, hle⟩
  | succ jumps ih =>
    have hm : Matched options shown none held v w.settle := h.settleUpTo World.turnLimit
    have hnow : w.settle.now = w.now := hm.now_eq h
    have hstop : Met options shown held v w.settle ∧ w.settle.now ≤ time := ⟨hm.met, hnow ▸ hle⟩
    unfold World.passAlarms
    dsimp only
    split
    · exact hstop
    · next alarm hnext =>
      split
      · next hlt =>
        obtain ⟨a, hmem, rfl⟩ := List.mem_map.mp (List.min?_mem hnext)
        have hclock : ((w.settle).setClock a.due).now ≤ time := by
          rw [World.now_setClock]
          exact hlt.le
        refine ⟨hm.met.trans fun u hu => ?_, ?_⟩
        · exact (hu.setClock (hu.alarms a hmem).le).trans fun u' hu' => (ih hu' hclock).1
        · obtain ⟨u, -, hu⟩ := hm.met
          obtain ⟨u', -, hu'⟩ := hu.setClock (hu.alarms a hmem).le
          exact (ih hu' hclock).2
      · exact hstop

theorem sleep (h : Staged options shown none held w v) (ms : Nat) :
    Met options shown held v (w.sleep ms) := by
  unfold World.sleep
  split
  · exact h.matched.met
  · obtain ⟨hmet, hnow⟩ := h.passAlarms (Nat.le_add_right w.now ms) (ms + 1)
    exact hmet.trans fun u hu => hu.setClock hnow

theorem connect (h : Staged options shown none held w v) :
    Met options shown held v w.connect.2 := by
  unfold World.connect
  rcases h.beginConnect with ⟨e, hresult, hm⟩ | ⟨k, plan, hresult, hm⟩
  · dsimp only
    rw [hresult]
    exact hm.met
  · dsimp only
    rw [hresult]
    exact hm.met.trans fun u hu => (hu.sleep plan.delay).trans fun u' hu' =>
      (hu'.finishConnect plan).met

theorem call (h : Staged options shown none held w v) (c : Call) :
    Matched options shown none held v (w.enter (·.call c)).2 :=
  h.matched_act (a := .call c) rfl (h.act (fun _ => rfl) rfl nofun rfl)

/-- Whatever a tester does is met. -/
theorem take (h : Staged options shown none held w v) (step : Step) :
    Met options shown held v (w.take step).2 := by
  cases step with
  | call c => exact (h.call c).met
  | connect => exact h.connect
  | options | pause => exact h.matched.met
  | inject signals link =>
    simp only [World.take, World.inject]
    split
    · exact h.matched.met
    · split
      · exact (h.modifyLink _ _).matched.met
      · exact h.matched.met
  | dropSender link | setFailing failing link => exact (h.modifyLink _ _).matched.met
  | advance ms => exact h.sleep ms

theorem run (h : Staged options shown none held w v) (step : Step) :
    Met options shown held v (w.run step).2 :=
  (h.take step).trans fun _ hu => (hu.settleUpTo World.turnLimit).met

theorem fresh (h : Staged options shown none held w v) :
    Staged options v.scene.past none held w.fresh v :=
  { h with past := ⟨[], (List.append_nil _).symm, rfl, rfl, rfl⟩ }

end Staged

end

/-! ### Scenarios -/

namespace World

/-- The world after some steps. What it shows is gathered anew in each. -/
def after (w : World) (steps : List Step) : World :=
  steps.foldl (fun w step => (w.fresh.run step).2) w

/-- The worlds that a tester sees in the course of some steps. -/
def course (w : World) : List Step → List World
  | [] => [w]
  | step :: steps => w :: (w.fresh.run step).2.course steps

end World

theorem Staged.after {options : ClientOptions} {shown : List Deed} {w : World} {v : Vigil}
    (h : Staged options shown none [] w v) (steps : List Step) :
    ∃ v' shown' deeds, Relation.ReflTransGen Vigil.Goes v v' ∧
      Staged options shown' none [] (w.after steps) v' ∧
      v'.scene.past = shown ++ deeds.flatten ∧ List.Forall₂ World.Shows (w.course steps) deeds := by
  induction steps generalizing w v shown with
  | nil =>
    obtain ⟨new, hpast, hshows⟩ := h.past
    refine ⟨v, shown, [new], .refl, h, ?_, .cons hshows .nil⟩
    rw [hpast, List.flatten_singleton]
  | cons step steps ih =>
    obtain ⟨new, hpast, hshows⟩ := h.past
    obtain ⟨u, hgo, hu⟩ := h.fresh.run step
    obtain ⟨v', shown', deeds, hgo', hv', hdeeds, hall⟩ := ih hu
    refine ⟨v', shown', new :: deeds, hgo.trans hgo', hv', ?_, .cons hshows hall⟩
    rw [hdeeds, hpast, List.flatten_cons, List.append_assoc]

/-! ### Handlers from the start -/

theorem Handlers.eq_of_get? {α : Type} {t u : Handlers α} (h : ∀ kind, t.get? kind = u.get? kind) :
    t = u := by
  cases t
  cases u
  simp only [Handlers.mk.injEq]
  exact ⟨h .connectResult, h .publishSent, h .publishComplete, h .publishReceived,
    h .subscribeComplete, h .unsubscribeComplete, h .pingResponse, h .connectionClosed,
    h .operationAbandoned⟩

namespace Handlers

/-- Takes over the handlers for some kinds. -/
def takeOver (u t : Handlers Handler) (kinds : List EventKind) : Handlers Handler :=
  kinds.foldl (fun u kind => (t.get? kind).elim u (u.insert kind)) u

theorem get?_takeOver (u t : Handlers Handler) (kinds : List EventKind) (kind : EventKind) :
    (u.takeOver t kinds).get? kind =
      if kind ∈ kinds then (t.get? kind).or (u.get? kind) else u.get? kind := by
  induction kinds generalizing u with
  | nil => rfl
  | cons k kinds ih =>
    rw [takeOver, List.foldl_cons]
    refine (ih _).trans ?_
    cases hk : t.get? k with
    | none =>
      by_cases heq : kind = k
      · subst heq
        simp [hk]
      · simp [heq]
    | some h =>
      by_cases heq : kind = k
      · subst heq
        simp [hk]
      · simp [heq, get?_insert_of_ne _ _ (Ne.symm heq)]

theorem takeOver_all (t : Handlers Handler) :
    ({} : Handlers Handler).takeOver t EventKind.all = t := by
  refine eq_of_get? fun kind => ?_
  have hempty : ({} : Handlers Handler).get? kind = none := by cases kind <;> rfl
  rw [get?_takeOver, if_pos (EventKind.mem_all kind), hempty, Option.or_none]

end Handlers

theorem staged_start (options : ClientOptions) (freshId : String) :
    Staged options [] none [] (World.start (.new options) freshId) (Vigil.start options 0) where
  reached := ⟨[], rfl⟩
  client := rfl
  clock := rfl
  past := ⟨[], rfl, rfl, rfl, rfl⟩
  links _ ht := absurd ht List.not_mem_nil
  alarms _ ha := absurd ha List.not_mem_nil
  aligned := nofun
  tasks _ _ _ ht := nomatch ht
  distinct _ _ _ _ _ _ _ hs := nomatch hs
  dials _ hk := absurd hk List.not_mem_nil
  nodup := List.nodup_nil

/-- Handlers that are there from the start might have been registered one by one. -/
theorem Staged.takeOver {options : ClientOptions} {freshId : String} {u : Handlers Handler}
    {v : Vigil} (h : Staged options [] none []
      (World.start { Client.new options with handlers := u } freshId) v)
    (t : Handlers Handler) (kinds : List EventKind) :
    Met options [] [] v
      (World.start { Client.new options with handlers := u.takeOver t kinds } freshId) := by
  induction kinds generalizing u v with
  | nil => exact h.matched.met
  | cons kind kinds ih =>
    rw [Handlers.takeOver, List.foldl_cons]
    cases t.get? kind with
    | none => exact ih h
    | some handler =>
      have hcall :=
        h.call (.setHandler kind handler.tag handler.calls handler.rounds handler.panics)
      exact hcall.met.trans fun u hu => ih hu

namespace World

/-- Whatever a tester does with a client in its world, a vigil can go on to in steps that it lets
happen. It has the same client at the same time, and what the world shows after each step is what
has come of the activities in the vigil meanwhile. Connect calls that wait for their connectors, and
deliveries, are in the vigil as they are in the world; a delivery that is not to have a turn
rests. -/
theorem exists_vigil (options : ClientOptions) (handlers : Handlers Handler) (freshId : String)
    (steps : List Step) :
    let w := start { Client.new options with handlers := handlers } freshId
    let w' := w.after steps
    ∃ v deeds, Relation.ReflTransGen Vigil.Goes (Vigil.start options 0) v ∧
      v.scene.client = w'.client ∧ v.clock = micros w'.now ∧
      v.scene.past = deeds.flatten ∧ List.Forall₂ Shows (w.course steps) deeds ∧
      ∀ (id : TaskId) (task : Task), w'.tasks[id]? = some task → task.Stands v (id ∈ w'.ready) := by
  intro w w'
  have hstart : Met options [] [] (Vigil.start options 0) w := by
    have htake := (staged_start options freshId).takeOver handlers EventKind.all
    rwa [Handlers.takeOver_all] at htake
  obtain ⟨u, hgo, hu⟩ := hstart
  obtain ⟨v, shown, deeds, hgo', hv, hpast, hall⟩ := hu.after steps
  exact ⟨v, deeds, hgo.trans hgo', hv.client, hv.clock, hpast, hall, fun id task ht => hv.stands ht⟩

/-- In no world does a delivery oversleep that is not to have a turn. -/
theorem timely (options : ClientOptions) (hauto : options.connect.autoKeepAlive)
    (hkeep : options.connect.keepAlive ≠ 0) (handlers : Handlers Handler) (freshId : String)
    (steps : List Step) :
    let w := (start { Client.new options with handlers := handlers } freshId).after steps
    ∀ (id : TaskId) (k : Nat) (link : TransportId) (due : Option Nat),
      w.tasks[id]? = some (.delivery k link (.waiting due)) → id ∉ w.ready →
      w.client.session.isCurrent k → w.client.session.status = .connected →
      ∃ deadline next, due = some deadline ∧ w.client.session.keepAlive.nextPing = some next ∧
        micros deadline ≤ next := by
  intro w id k link due ht hid hcur hc
  obtain ⟨v, -, hgo, hclient, -, -, -, htasks⟩ := exists_vigil options handlers freshId steps
  have hpost : v.post k = .parked (due.map micros) :=
    (htasks id _ ht).2.resolve_right fun h => hid h.1
  obtain ⟨es, rfl⟩ := Vigil.exists_run_of_goes hgo
  have hpunctual := Vigil.punctual_run options hauto hkeep 0 es
  obtain ⟨os, hos⟩ := Vigil.scene_run options 0 es
  have hsession : w.client.session = ((Vigil.start options 0).run es).session :=
    congrArg Client.session hclient.symm
  rw [hsession] at hcur hc ⊢
  obtain ⟨next, hnext⟩ := Scene.nextPing_of_connected options os hauto hkeep (hos ▸ hc)
  rw [← hos] at hnext
  have htimely := hpunctual.timely k next hcur hc hnext
  rw [hpost] at htimely
  obtain ⟨deadline, hdue, hle⟩ := htimely
  obtain ⟨ms, rfl, rfl⟩ := Option.map_eq_some_iff.mp hdue
  exact ⟨ms, next, rfl, hnext, hle⟩

example :
    let w := (start (.new { host := "h" }) "").after
      [.connect, .inject [.packet (.connack ⟨false, .accepted⟩)] none, .advance 10000]
    (w.tasks.toList, w.ready, w.client.session.status, w.client.session.keepAlive.nextPing) =
      ([.delivery 1 0 (.waiting (some 30000))], [], .connected, some 30000000) := by
  cbv

end World

end Mqtt
