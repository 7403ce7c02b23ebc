import Mathlib.Logic.Relation
import Mqtt.Proofs.Housekeeping
import Mqtt.Proofs.Punctual

/-!
# Worlds and vigils

A world is one of the courses that a vigil can take. Tasks stand for connect calls that wait for
their connectors, and for deliveries; a turn of a task is an activity of its attempt, a delivery
coming to rest, or nothing that a vigil could tell.
-/

namespace Mqtt

open Session

/-! ### What an activity leaves alone -/

/-- The attempt whose connect call or delivery an activity is part of. -/
def Activity.attempt? : Activity → Option Nat
  | call _ | beginConnect => none
  | finishConnect attempt _ | look attempt | signal attempt _ | timer attempt => some attempt

namespace Scene

variable {s : Scene} {a : Activity} {k : Nat}

theorem mem_dials_arrange_of_ne (r : Round) (h : k ∈ s.dials) (hk : a.attempt? ≠ some k) :
    k ∈ (s.arrange r a).dials := by
  cases a with
  | call _ | timer _ => exact h
  | beginConnect =>
    simp only [arrange]
    split
    · exact List.mem_append_left _ h
    · exact h
  | finishConnect j outcome =>
    have hne : k ≠ j := fun heq => hk (congrArg some heq.symm)
    have hmem : k ∈ s.dials.filter (· ≠ j) := List.mem_filter.mpr ⟨h, by simpa using hne⟩
    simp only [arrange]
    split <;> exact hmem
  | look _ | signal _ _ =>
    simp only [arrange]
    split <;> exact h

theorem mem_deliveries_arrange_of_ne (r : Round) (h : k ∈ s.deliveries)
    (hk : a.attempt? ≠ some k) : k ∈ (s.arrange r a).deliveries := by
  have hend : ∀ j, some j ≠ some k → k ∈ (s.endDelivery j).deliveries := fun j hj =>
    List.mem_filter.mpr ⟨h, by simpa using fun heq => hj (congrArg some heq.symm)⟩
  cases a with
  | call _ | timer _ => exact h
  | beginConnect =>
    simp only [arrange]
    split <;> exact h
  | finishConnect j outcome =>
    simp only [arrange]
    split
    · exact List.mem_append_left _ h
    · exact h
  | look j | signal j _ =>
    simp only [arrange]
    split
    · exact h
    · exact hend j hk

theorem attempt_le (options : ClientOptions) (os : List Occasion) :
    let s := (start options).run os
    ∀ k, k ∈ s.dials ∨ k ∈ s.deliveries → k ≤ s.client.session.attempt := by
  intro s k hk
  obtain ⟨as, h⟩ := traced_run options os
  rw [h.session]
  rcases hk with hk | hk
  · exact (mem_begun_run (h.dials k hk).1).2
  · obtain ⟨t, ht⟩ := h.deliveries k hk
    exact (mem_begun_run (h.networked.begun_of_dialed (mem_dialed_of_mem_openings ht))).2

end Scene

theorem Round.attempt_of_beginConnect {r : Round} {k : Nat} (h : r.beginConnect.1 = .ok k) :
    k = r.client.session.attempt + 1 := by
  have hresult := r.result_beginConnect
  rw [h] at hresult
  rcases (Move.mk r.client.session
    ⟨.startConnect r.env.freshId, r.env.now, none⟩).transition.attempt_eq_or with
    ⟨-, hne⟩ | ⟨-, -, hok, -⟩
  · exact absurd hresult (hne k)
  · cases hresult.symm.trans hok
    rfl

namespace Vigil

variable {v : Vigil} {a : Activity}

theorem post_leave_of_ne (r : Round) {k : Nat} (hk : a.attempt? ≠ some k) :
    (v.leave r a).post k = v.post k := by
  have hset : ∀ j p, some j ≠ some k → (v.setPost j p).post k = v.post k := fun j p hj =>
    post_setPost_of_ne p fun heq => hj (congrArg some heq.symm)
  cases a with
  | call _ | beginConnect => rfl
  | timer j | signal j _ | finishConnect j _ => exact hset j _ hk
  | look j =>
    simp only [leave]
    split
    · exact hset j _ hk
    · rfl

def Allows (v : Vigil) : Step → Prop
  | .advance time => v.clock ≤ time
  | .park attempt => ∃ timer, v.post attempt = .polling timer ∧ v.elapsed timer = false
  | .act activity _ _ => (v.scene.admits activity && v.awaits activity) = true

def Goes (v v' : Vigil) : Prop := ∃ e, v.Allows e ∧ v.step e = v'

theorem exists_run_of_goes {u : Vigil} (h : Relation.ReflTransGen Goes u v) :
    ∃ es, v = u.run es := by
  induction h with
  | refl => exact ⟨[], rfl⟩
  | tail _ hstep ih =>
    obtain ⟨es, rfl⟩ := ih
    obtain ⟨e, -, rfl⟩ := hstep
    exact ⟨es ++ [e], (run_concat u es e).symm⟩

end Vigil

/-! ### Stages -/

def Task.attempt? : Task → Option Nat
  | .connect | .over => none
  | .dial attempt _ | .delivery attempt _ _ => some attempt

/-- A time of a world, which counts milliseconds, in a vigil. -/
def World.micros (ms : Nat) : Int := 1000 * ms

/-- Where a vigil has a delivery that a world has at some stage. With nothing to do, it rests. -/
def Stage.Fits (p : Post) (ready : Prop) : Stage → Prop
  | looking => p = .looking
  | waiting due => p = .parked (due.map World.micros) ∨ ready ∧ p = .polling (due.map World.micros)

/-- What a task of a world stands for in a vigil. -/
def Task.Stands (v : Vigil) (ready : Prop) : Task → Prop
  | .connect | .over => True
  | .dial attempt _ => attempt ∈ v.scene.dials
  | .delivery attempt _ stage => attempt ∈ v.scene.deliveries ∧ stage.Fits (v.post attempt) ready

theorem Task.Stands.mono {v : Vigil} {p q : Prop} {task : Task} (h : task.Stands v p)
    (hpq : p → q) : task.Stands v q := by
  cases task with
  | connect | «over» => trivial
  | dial _ _ => exact h
  | delivery attempt link stage =>
    cases stage with
    | looking => exact h
    | waiting due => exact ⟨h.1, h.2.imp_right fun hp => ⟨hpq hp.1, hp.2⟩⟩

/-- No task belongs to an attempt, apart from the one at work. -/
def World.Apart (w : World) (busy : Option TaskId) (attempt : Nat) : Prop :=
  ∀ (id : TaskId) (task : Task), busy ≠ some id → w.tasks[id]? = some task →
    task.attempt? ≠ some attempt

def World.Distinct (w : World) (busy : Option TaskId) : Prop :=
  ∀ (i j : TaskId) (s t : Task) (k : Nat), busy ≠ some i → busy ≠ some j →
    w.tasks[i]? = some s → w.tasks[j]? = some t → s.attempt? = some k → t.attempt? = some k → i = j

/-- A world and a vigil agree, apart from the task at work, if there is one. Connect calls may be
held that have no task of their own, and some deeds may have been shown already. -/
structure Staged (options : ClientOptions) (shown : List Deed) (busy : Option TaskId)
    (held : List Nat) (w : World) (v : Vigil) : Prop where
  reached : ∃ os, v.scene = (Scene.start options).run os
  client : v.scene.client = w.client
  clock : v.clock = World.micros w.now
  past : ∃ deeds, v.scene.past = shown ++ deeds ∧ w.Shows deeds
  links : ∀ t ∈ v.scene.transports, t < w.links.size
  alarms : ∀ alarm ∈ w.alarms, w.now < alarm.due
  aligned : ∀ t, w.client.session.keepAlive.lastWrite = some t → (1000 : Int) ∣ t
  tasks : ∀ (id : TaskId) (task : Task), busy ≠ some id → w.tasks[id]? = some task →
    task.Stands v (id ∈ w.ready)
  distinct : w.Distinct busy
  dials : ∀ k ∈ held, k ∈ v.scene.dials ∧ w.Apart busy k
  nodup : held.Nodup

theorem World.Apart.tend {w w' : World} {busy : Option TaskId} {k : Nat} (h : w.Apart busy k)
    (ht : w.Tended w') : w'.Apart busy k := by
  intro id task hid htask
  rcases ht.tasks id task htask with hold | rfl
  · exact h id task hid hold
  · nofun

theorem World.Distinct.tend {w w' : World} {busy : Option TaskId} (h : w.Distinct busy)
    (ht : w.Tended w') : w'.Distinct busy := by
  intro i j s t k hi hj hs ht' hsk htk
  rcases ht.tasks i s hs with hs | rfl
  · rcases ht.tasks j t ht' with ht' | rfl
    · exact h i j s t k hi hj hs ht' hsk htk
    · cases htk
  · cases hsk

namespace Staged

variable {options : ClientOptions} {shown : List Deed} {busy : Option TaskId} {held : List Nat}
  {w w' : World} {v : Vigil}

theorem shows_of (h : Staged options shown busy held w v) (hu : w.Unnoticed w') :
    ∃ deeds, v.scene.past = shown ++ deeds ∧ w'.Shows deeds :=
  h.past.imp fun _ hpast => hpast.imp_right (·.unnoticed hu)

theorem tend (h : Staged options shown busy held w v) (ht : w.Tended w')
    (hu : w.Unnoticed w') : Staged options shown busy held w' v where
  reached := h.reached
  client := h.client.trans hu.client.symm
  clock := by rw [ht.now, h.clock]
  past := h.shows_of hu
  links t hmem := (h.links t hmem).trans_le ht.links
  alarms alarm hmem := ht.now ▸ h.alarms alarm (ht.alarms alarm hmem)
  aligned := hu.client ▸ h.aligned
  tasks id task hid htask := by
    rcases ht.tasks id task htask with hold | rfl
    · exact (h.tasks id task hid hold).mono (ht.ready id)
    · trivial
  distinct := h.distinct.tend ht
  dials k hk := ⟨(h.dials k hk).1, (h.dials k hk).2.tend ht⟩
  nodup := h.nodup

theorem roundIn_eq (h : Staged options shown busy held w v) :
    v.round w.freshId w.env.fault = w.client.roundIn w.env := by
  rw [Vigil.round, Vigil.env, h.client, h.clock]
  rfl

end Staged

theorem Task.Stands.act {v : Vigil} {p : Prop} {task : Task} (h : task.Stands v p) {a : Activity}
    (ha : (v.scene.admits a && v.awaits a) = true) (freshId : String)
    (fault : TransportId → Option Error) (hk : ∀ k, task.attempt? = some k → a.attempt? ≠ some k) :
    task.Stands (v.step (.act a freshId fault)) p := by
  have hadmits : v.scene.admits a = true := (Bool.and_eq_true_iff.mp ha).1
  rw [Vigil.step_act ha]
  unfold Scene.step
  rw [if_pos hadmits]
  cases task with
  | connect | «over» => trivial
  | dial attempt plan => exact Scene.mem_dials_arrange_of_ne _ h (hk attempt rfl)
  | delivery attempt link stage =>
    refine ⟨Scene.mem_deliveries_arrange_of_ne _ h.1 (hk attempt rfl), ?_⟩
    show stage.Fits ((v.leave (v.round freshId fault) a).post attempt) p
    rw [Vigil.post_leave_of_ne _ (hk attempt rfl)]
    exact h.2

namespace Staged

variable {options : ClientOptions} {shown : List Deed} {busy : Option TaskId} {held : List Nat}
  {w w' : World} {v : Vigil}

theorem step_eq (h : Staged options shown busy held w v) {a : Activity}
    (ha : (v.scene.admits a && v.awaits a) = true) :
    v.step (.act a w.freshId w.env.fault) =
      { v.leave (w.client.roundIn w.env) a with
        scene := { v.scene.arrange (w.client.roundIn w.env) a with
          client := (a.perform (w.client.roundIn w.env)).client
          past := v.scene.past ++ [⟨w.client, a, w.env⟩] } } := by
  have hadmits : v.scene.admits a = true := (Bool.and_eq_true_iff.mp ha).1
  have henv : v.env w.freshId w.env.fault = w.env := congrArg Round.env h.roundIn_eq
  rw [Vigil.step_act ha, Scene.step]
  simp only [if_pos hadmits, henv, h.client, h.roundIn_eq]
  rfl

/-- An activity of a client in its world, and the same in a vigil. -/
theorem act (h : Staged options shown busy held w v) {α : Type} {f : Round → α × Round}
    {a : Activity} (hf : ∀ r, (f r).2 = a.perform r)
    (ha : (v.scene.admits a && v.awaits a) = true)
    (hapart : ∀ k, a.attempt? = some k → w.Apart busy k ∧ k ∉ held)
    (hopen : (a.opening?.all fun p => p.2 < w.links.size) = true) :
    Staged options shown busy held (w.enter f).2 (v.step (.act a w.freshId w.env.fault)) := by
  have htend := w.tended_enter f
  have hclient := (w.unnoticed_enter f).client
  rw [hf] at hclient
  have hscene := congrArg Vigil.scene (h.step_eq ha)
  have hstand : ∀ (id : TaskId) (task : Task), busy ≠ some id → w.tasks[id]? = some task →
      task.Stands (v.step (.act a w.freshId w.env.fault)) (id ∈ w.ready) :=
    fun id task hid htask => (h.tasks id task hid htask).act ha _ _ fun k hk hak =>
      (hapart k hak).1 id task hid htask hk
  refine {
    reached := ?reached
    client := by rw [hscene, hclient]
    clock := ?clock
    past := ?past
    links := ?links
    alarms := fun alarm hmem => htend.now ▸ h.alarms alarm (htend.alarms alarm hmem)
    aligned := ?aligned
    tasks := ?tasks
    distinct := h.distinct.tend htend
    dials := ?dials
    nodup := h.nodup }
  case reached =>
    obtain ⟨os, hos⟩ := h.reached
    refine ⟨os ++ [⟨a, v.env w.freshId w.env.fault⟩], ?_⟩
    rw [Vigil.step_act ha, hos, Scene.run, Scene.run, List.foldl_append]
    rfl
  case clock =>
    rw [Vigil.step_act ha, htend.now, ← h.clock]
    exact Vigil.clock_leave _ a
  case past =>
    obtain ⟨deeds, hpast, hshows⟩ := h.past
    refine ⟨deeds ++ [⟨w.client, a, w.env⟩], ?_, hshows.enter (hf _)⟩
    rw [hscene, hpast, List.append_assoc]
  case links =>
    intro t ht
    rw [hscene] at ht
    refine lt_of_lt_of_le ?_ htend.links
    rcases Scene.mem_transports_arrange.mp ht with ht | ⟨k, hk⟩
    · exact h.links t ht
    · rw [hk] at hopen
      exact of_decide_eq_true hopen
  case aligned =>
    intro t ht
    obtain ⟨bs, -, hasks⟩ := a.asks_perform (w.client.roundIn w.env)
    rw [hclient, hasks.session] at ht
    -- What is written in this round is written at the time of the world.
    rcases lastWrite_run hasks.onTime ht with hold | rfl
    · exact h.aligned t hold
    · exact ⟨w.now, rfl⟩
  case tasks =>
    intro id task hid htask
    rcases htend.tasks id task htask with hold | rfl
    · exact (hstand id task hid hold).mono (htend.ready id)
    · trivial
  case dials =>
    intro k hk
    obtain ⟨hmem, hk'⟩ := h.dials k hk
    refine ⟨?_, hk'.tend htend⟩
    rw [hscene]
    exact Scene.mem_dials_arrange_of_ne _ hmem fun hak => (hapart k hak).2 hk

/-! ### Tasks at work -/

theorem stands (h : Staged options shown none held w v) {id : TaskId} {task : Task}
    (ht : w.tasks[id]? = some task) : task.Stands v (id ∈ w.ready) :=
  h.tasks id task (Option.some_ne_none id).symm ht

theorem atWork (h : Staged options shown none held w v) (id : TaskId) :
    Staged options shown (some id) held w v :=
  { h with
    tasks := fun _ _ _ => h.stands
    distinct := fun i j s t k _ _ => h.distinct i j s t k nofun nofun
    dials := fun k hk => ⟨(h.dials k hk).1, fun j task _ => (h.dials k hk).2 j task nofun⟩ }

theorem apart_of_task (h : Staged options shown none held w v) {id : TaskId} {task : Task}
    (ht : w.tasks[id]? = some task) {k : Nat} (hk : task.attempt? = some k) :
    w.Apart (some id) k ∧ k ∉ held := by
  refine ⟨fun j task' hj ht' hk' => hj ?_, fun hmem => (h.dials k hmem).2 id task nofun ht hk⟩
  rw [h.distinct id j task task' k nofun nofun ht ht' hk hk']

/-- A task that was at work stands for something again. -/
theorem atRest {id : TaskId} (h : Staged options shown (some id) held w v)
    (hid : ∀ task, w.tasks[id]? = some task → task.Stands v (id ∈ w.ready) ∧
      ∀ k, task.attempt? = some k → w.Apart (some id) k ∧ k ∉ held) :
    Staged options shown none held w v := by
  have hne : ∀ {j : TaskId}, j ≠ id → some id ≠ some j := fun hj heq =>
    hj (Option.some.inj heq).symm
  refine { h with tasks := ?tasks, distinct := ?distinct, dials := ?dials }
  case tasks =>
    intro j task _ ht
    by_cases hj : j = id
    · subst hj
      exact (hid task ht).1
    · exact h.tasks j task (hne hj) ht
  case distinct =>
    intro i j s t k _ _ hs ht hsk htk
    by_cases hi : i = id
    · subst hi
      by_cases hj : j = i
      · exact hj.symm
      · exact absurd htk (((hid s hs).2 k hsk).1 j t (hne hj) ht)
    · by_cases hj : j = id
      · subst hj
        exact absurd hsk (((hid t ht).2 k htk).1 i s (hne hi) hs)
      · exact h.distinct i j s t k (hne hi) (hne hj) hs ht hsk htk
  case dials =>
    intro k hk
    refine ⟨(h.dials k hk).1, fun j task _ ht hjk => ?_⟩
    by_cases hj : j = id
    · subst hj
      exact ((hid task ht).2 k hjk).2 hk
    · exact (h.dials k hk).2 j task (hne hj) ht hjk

end Staged

theorem World.tasks_setTask {w : World} {id j : TaskId} {task t : Task}
    (h : (w.setTask id task).tasks[j]? = some t) :
    j = id ∧ t = task ∨ j ≠ id ∧ w.tasks[j]? = some t := by
  rw [setTask, Array.set!_eq_setIfInBounds, Array.getElem?_setIfInBounds] at h
  split at h
  · next heq =>
    split at h
    · exact .inl ⟨heq.symm, (Option.some.inj h).symm⟩
    · cases h
  · next hne => exact .inr ⟨fun heq => hne heq.symm, h⟩

theorem World.Apart.setTask {w : World} {id : TaskId} {k : Nat} (h : w.Apart (some id) k)
    (task : Task) : (w.setTask id task).Apart (some id) k := by
  intro j t hj ht
  rcases tasks_setTask ht with ⟨rfl, -⟩ | ⟨-, ht⟩
  · exact absurd rfl hj
  · exact h j t hj ht

namespace Staged

variable {options : ClientOptions} {shown : List Deed} {held : List Nat} {w : World} {v : Vigil}
  {id : TaskId}

theorem setTask (h : Staged options shown (some id) held w v) {task : Task}
    (hs : task.Stands v (id ∈ w.ready))
    (hk : ∀ k, task.attempt? = some k → w.Apart (some id) k ∧ k ∉ held) :
    Staged options shown none held (w.setTask id task) v := by
  have hother : ∀ {j : TaskId} {t : Task}, some id ≠ some j →
      (w.setTask id task).tasks[j]? = some t → w.tasks[j]? = some t := by
    intro j t hj ht
    rcases World.tasks_setTask ht with ⟨rfl, -⟩ | ⟨-, ht⟩
    · exact absurd rfl hj
    · exact ht
  have hset : Staged options shown (some id) held (w.setTask id task) v :=
    { h with
      past := h.shows_of ⟨rfl, rfl, rfl, rfl⟩
      tasks := fun j t hj ht => h.tasks j t hj (hother hj ht)
      distinct := fun i j s t k hi hj hs ht =>
        h.distinct i j s t k hi hj (hother hi hs) (hother hj ht)
      dials := fun k hmem => ⟨(h.dials k hmem).1, (h.dials k hmem).2.setTask task⟩ }
  refine hset.atRest fun t ht => ?_
  rcases World.tasks_setTask ht with ⟨-, rfl⟩ | ⟨hne, -⟩
  · exact ⟨hs, fun k htk => ⟨(hk k htk).1.setTask t, (hk k htk).2⟩⟩
  · exact absurd rfl hne

theorem rest (h : Staged options shown none held w v)
    (hid : ∀ task, w.tasks[id]? = some task → task.Stands v False) :
    Staged options shown none held (w.rest id) v := by
  refine { h with past := h.shows_of ⟨rfl, rfl, rfl, rfl⟩, tasks := fun j task _ ht => ?_ }
  by_cases hj : j = id
  · subst hj
    exact (hid task ht).mono False.elim
  · exact (h.stands ht).mono (List.mem_erase_of_ne hj).mpr

theorem finish (h : Staged options shown (some id) held w v) :
    Staged options shown none held (w.finish id) v := by
  have hover : Staged options shown none held (w.setTask id .over) v := h.setTask trivial nofun
  refine hover.rest fun task ht => ?_
  rcases World.tasks_setTask ht with ⟨-, rfl⟩ | ⟨hne, -⟩
  · trivial
  · exact absurd rfl hne

theorem restUntil (h : Staged options shown none held w v) {due : Nat} (hdue : w.now < due)
    (hid : ∀ task, w.tasks[id]? = some task → task.Stands v False) :
    Staged options shown none held (w.restUntil id due) v := by
  refine { h.rest hid with
    past := h.shows_of ⟨rfl, rfl, rfl, rfl⟩
    alarms := fun alarm hmem => ?_ }
  rcases List.mem_append.mp hmem with hmem | hmem
  · exact h.alarms alarm hmem
  · rw [List.mem_singleton.mp hmem]
    exact hdue

end Staged

end Mqtt
