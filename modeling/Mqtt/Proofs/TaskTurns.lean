import Mqtt.Proofs.Staging

/-!
# Turns of tasks

A turn of a task is met by steps of a vigil at one time: the activity that the task is up to, a
delivery that comes to rest, or nothing. Where a connect call needs no time for its connector, one
turn is both of its halves.
-/

namespace Mqtt

open Session

/-- What a vigil goes on to at one time meets a world. -/
def Matched (options : ClientOptions) (shown : List Deed) (busy : Option TaskId) (held : List Nat)
    (v : Vigil) (w : World) : Prop :=
  ∃ v', Relation.ReflTransGen Vigil.Goes v v' ∧ v'.clock = v.clock ∧
    Staged options shown busy held w v'

theorem World.max_micros (now : Nat) {time : Int} (h : (1000 : Int) ∣ time) :
    max (micros now) time = micros (max now (elapsedMs time)) := by
  obtain ⟨ms, rfl⟩ := h
  unfold micros elapsedMs
  omega

theorem Round.dvd_of_look {r : Round} {k : Nat} {time : Int}
    (hr : ∀ t, r.client.session.keepAlive.lastWrite = some t → (1000 : Int) ∣ t)
    (h : (r.look k).1 = some (some time)) : (1000 : Int) ∣ time := by
  have hcur : r.client.session.isCurrent k = true := by
    by_contra hne
    have hne' : ¬(r.note .deliveryLoop).client.session.isCurrent k = true := hne
    simp only [look, if_neg hne'] at h
    cases h
  rw [look_eq hcur] at h
  have hnext : r.client.session.keepAlive.nextPing = some time := by
    have h' := Option.some.inj h
    split at h'
    · exact h'
    · cases h'
  unfold KeepAlive.nextPing at hnext
  split at hnext
  · next seconds last _ hlast =>
    cases hnext
    exact Int.dvd_add (hr last hlast) ⟨seconds * 1000, by rw [KeepAlive.microsPerSecond]; omega⟩
  · cases hnext

namespace Staged

variable {options : ClientOptions} {shown : List Deed} {busy : Option TaskId} {held : List Nat}
  {w : World} {v : Vigil} {id : TaskId} {k : Nat} {link : TransportId}

theorem matched (h : Staged options shown busy held w v) : Matched options shown busy held v w :=
  ⟨v, .refl, rfl, h⟩

theorem matched_act (h : Staged options shown busy held w v) {a : Activity}
    (ha : (v.scene.admits a && v.awaits a) = true) {w' : World} {busy' : Option TaskId}
    {held' : List Nat}
    (h' : Staged options shown busy' held' w' (v.step (.act a w.freshId w.env.fault))) :
    Matched options shown busy' held' v w' := by
  refine ⟨_, .single ⟨.act a w.freshId w.env.fault, ha, rfl⟩, ?_, h'⟩
  rw [h.step_eq ha]
  exact Vigil.clock_leave _ a

theorem modifyLink (h : Staged options shown busy held w v) (link : TransportId)
    (f : Link → Link) : Staged options shown busy held (w.modifyLink link f) v :=
  h.tend (w.tended_modifyLink link f) (w.unnoticed_modifyLink link f)

theorem endDelivery (h : Staged options shown (some id) held w v) (link : TransportId) :
    Staged options shown none held (w.endDelivery id link) v :=
  (h.modifyLink link Link.abandon).finish

theorem look (h : Staged options shown none held w v)
    (ht : w.tasks[id]? = some (.delivery k link .looking)) (hid : id ∈ w.ready) :
    Matched options shown none held v (w.look id k link) := by
  obtain ⟨hmem, hpost⟩ := h.stands ht
  have ha : (v.scene.admits (.look k) && v.awaits (.look k)) = true := by
    have hpost' : v.post k = .looking := hpost
    simp [Scene.admits, Vigil.awaits, hmem, hpost']
  have hapart : ∀ j, (Activity.look k).attempt? = some j → w.Apart (some id) j ∧ j ∉ held :=
    fun j hj => h.apart_of_task ht hj
  have hact := (h.atWork id).act (f := (·.look k)) (fun _ => rfl) ha hapart rfl
  have htend := w.tended_enter (·.look k)
  refine h.matched_act ha ?_
  unfold World.look
  dsimp only
  cases hnext : ((w.client.roundIn w.env).look k).1 with
  | none =>
    rw [show (w.enter (·.look k)).1 = none from hnext]
    exact hact.endDelivery link
  | some due =>
    rw [show (w.enter (·.look k)).1 = some due from hnext]
    refine hact.setTask ⟨?_, .inr ⟨htend.ready id hid, ?_⟩⟩ fun j hj =>
      (hapart j hj).imp_left (·.tend htend)
    · rw [h.step_eq ha]
      simpa only [Scene.arrange, hnext, Option.isSome_some, if_true] using hmem
    · rw [h.step_eq ha]
      simp only [Vigil.leave, hnext]
      rw [Vigil.post_setPost_self, h.clock, htend.now]
      cases due with
      | none => rfl
      | some time =>
        simp only [Option.map_some]
        rw [World.max_micros w.now (Round.dvd_of_look h.aligned hnext)]

theorem disarm (h : Staged options shown none held w v) (id : TaskId) :
    Staged options shown (some id) held (w.disarm id).spend v :=
  (h.atWork id).tend (w.tended_spend_disarm id) ⟨rfl, rfl, rfl, rfl⟩

theorem onSignal (h : Staged options shown none held w v) {stage : Stage}
    (ht : w.tasks[id]? = some (.delivery k link stage)) (hpost : v.post k ≠ .looking)
    (signal : Signal) : Matched options shown none held v (w.onSignal id k link signal) := by
  have hmem : k ∈ v.scene.deliveries := (h.stands ht).1
  have ha : (v.scene.admits (.signal k signal) && v.awaits (.signal k signal)) = true := by
    simp [Scene.admits, Vigil.awaits, hmem, hpost]
  have hapart : ∀ j, (Activity.signal k signal).attempt? = some j →
      (w.disarm id).spend.Apart (some id) j ∧ j ∉ held := fun j hj =>
    (h.apart_of_task ht hj).imp_left (·.tend (w.tended_spend_disarm id))
  have hact := (h.disarm id).act (f := (·.onSignal k signal)) (fun _ => rfl) ha hapart rfl
  have htend := (w.disarm id).spend.tended_enter (·.onSignal k signal)
  refine (h.disarm id).matched_act ha ?_
  have hsignal : w.onSignal id k link signal =
      if (((w.disarm id).spend.client.roundIn (w.disarm id).spend.env).onSignal k signal).1 then
        ((w.disarm id).spend.enter (·.onSignal k signal)).2.setTask id (.delivery k link .looking)
      else ((w.disarm id).spend.enter (·.onSignal k signal)).2.endDelivery id link := rfl
  rw [hsignal]
  split
  · next hgoes =>
    refine hact.setTask ⟨?_, ?_⟩ fun j hj => (hapart j hj).imp_left (·.tend htend)
    · rw [(h.disarm id).step_eq ha]
      simpa only [Scene.arrange, hgoes, if_true] using hmem
    · rw [(h.disarm id).step_eq ha]
      exact Vigil.post_setPost_self k _
  · exact hact.endDelivery link

theorem onTimer (h : Staged options shown none held w v) {stage : Stage}
    (ht : w.tasks[id]? = some (.delivery k link stage))
    (hpost : v.elapsed (v.post k).timer? = true) :
    Matched options shown none held v (w.onTimer id k link) := by
  have hmem : k ∈ v.scene.deliveries := (h.stands ht).1
  have ha : (v.scene.admits (.timer k) && v.awaits (.timer k)) = true := by
    simp [Scene.admits, Vigil.awaits, hmem, hpost]
  have hapart : ∀ j, (Activity.timer k).attempt? = some j →
      (w.disarm id).spend.Apart (some id) j ∧ j ∉ held := fun j hj =>
    (h.apart_of_task ht hj).imp_left (·.tend (w.tended_spend_disarm id))
  have hact := (h.disarm id).act (f := fun r => ((), r.onTimer k)) (fun _ => rfl) ha hapart rfl
  have htend := (w.disarm id).spend.tended_enter fun r => ((), r.onTimer k)
  refine (h.disarm id).matched_act ha (hact.setTask ⟨?_, ?_⟩ fun j hj =>
    (hapart j hj).imp_left (·.tend htend))
  · rw [(h.disarm id).step_eq ha]
    exact hmem
  · rw [(h.disarm id).step_eq ha]
    exact Vigil.post_setPost_self k _

theorem setPost (h : Staged options shown busy held w v) (hk : w.Apart busy k) (p : Post) :
    Staged options shown busy held w (v.setPost k p) := by
  refine { h with tasks := fun id task hid ht => ?_ }
  have hold := h.tasks id task hid ht
  cases task with
  | connect | «over» => trivial
  | dial _ _ => exact hold
  | delivery j link stage =>
    have hj : j ≠ k := fun heq => hk id _ hid ht (congrArg some heq)
    exact ⟨hold.1, (Vigil.post_setPost_of_ne p hj).symm ▸ hold.2⟩

/-- A delivery that finds nothing to wait for comes to rest. -/
theorem park (h : Staged options shown none held w v) {due : Option Nat}
    (ht : w.tasks[id]? = some (.delivery k link (.waiting due)))
    (hdue : ∀ time, due = some time → w.now < time) :
    ∃ v', Relation.ReflTransGen Vigil.Goes v v' ∧ v'.clock = v.clock ∧
      Staged options shown none held w v' ∧
      (Task.delivery k link (.waiting due)).Stands v' False := by
  obtain ⟨hmem, hpost | ⟨hready, hpost⟩⟩ := h.stands ht
  · exact ⟨v, .refl, rfl, h, hmem, .inl hpost⟩
  -- The timer is still to go off, so that the vigil lets the delivery come to rest.
  · have helapsed : v.elapsed (due.map World.micros) = false := by
      cases due with
      | none => rfl
      | some time =>
        have hlt := hdue time rfl
        simp only [Vigil.elapsed, Option.map_some, Option.any_some, h.clock, World.micros,
          decide_eq_false_iff_not]
        omega
    have hstep : v.step (.park k) = v.setPost k (.parked (due.map World.micros)) := by
      simp only [Vigil.step, hpost, helapsed, Bool.false_eq_true, if_false]
    have hapart := h.apart_of_task ht (k := k) rfl
    have hstands : (Task.delivery k link (.waiting due)).Stands
        (v.setPost k (.parked (due.map World.micros))) False :=
      ⟨hmem, .inl (Vigil.post_setPost_self k _)⟩
    refine ⟨_, .single ⟨.park k, ⟨_, hpost, helapsed⟩, hstep⟩, rfl, ?_, hstands⟩
    refine ((h.atWork id).setPost hapart.1 _).atRest fun task htask => ?_
    obtain rfl := Option.some.inj (ht.symm.trans htask)
    exact ⟨hstands.mono False.elim, fun j hj => h.apart_of_task ht hj⟩

theorem wait (h : Staged options shown none held w v) {due : Option Nat}
    (ht : w.tasks[id]? = some (.delivery k link (.waiting due))) :
    Matched options shown none held v (w.wait id k link due) := by
  have hpost : v.post k ≠ .looking ∧
      (v.post k).timer? = due.map World.micros := by
    rcases (h.stands ht).2 with hp | ⟨-, hp⟩ <;> rw [hp] <;> exact ⟨nofun, rfl⟩
  unfold World.wait
  split
  · exact (h.tend (w.tended_standBack id) (w.unnoticed_standBack id)).matched
  · split
    · next signal l _ =>
      have hlinks : w.Tended { w with links := w.links.set! link l } :=
        World.tended_of_eq rfl (by simp) rfl rfl rfl
      exact (h.tend hlinks ⟨rfl, rfl, rfl, rfl⟩).onSignal ht hpost.1 signal
    · cases due with
      | none =>
        obtain ⟨v', hgo, hclock, hstaged, hstands⟩ := h.park ht nofun
        refine ⟨v', hgo, hclock, hstaged.rest fun task htask => ?_⟩
        obtain rfl := Option.some.inj (ht.symm.trans htask)
        exact hstands
      | some time =>
        dsimp only
        split
        · next hle =>
          refine h.onTimer ht ?_
          rw [hpost.2, Vigil.elapsed, h.clock]
          simpa [World.micros] using hle
        · next hlt =>
          obtain ⟨v', hgo, hclock, hstaged, hstands⟩ := h.park ht fun _ heq =>
            Option.some.inj heq ▸ Nat.lt_of_not_le hlt
          refine ⟨v', hgo, hclock, hstaged.restUntil (Nat.lt_of_not_le hlt) fun task htask => ?_⟩
          obtain rfl := Option.some.inj (ht.symm.trans htask)
          exact hstands

/-! ### Connect calls -/

theorem hold (h : Staged options shown busy held w v) (hk : k ∈ v.scene.dials)
    (hapart : w.Apart busy k ∧ k ∉ held) : Staged options shown busy (k :: held) w v := by
  refine { h with dials := fun j hj => ?_, nodup := List.nodup_cons.mpr ⟨hapart.2, h.nodup⟩ }
  rcases List.mem_cons.mp hj with rfl | hj
  · exact ⟨hk, hapart.1⟩
  · exact h.dials j hj

theorem drop (h : Staged options shown busy (k :: held) w v) :
    Staged options shown busy held w v :=
  { h with
    dials := fun j hj => h.dials j (List.mem_cons_of_mem k hj)
    nodup := (List.nodup_cons.mp h.nodup).2 }

theorem apart_of_beginConnect (h : Staged options shown busy held w v)
    (hk : (w.client.roundIn w.env).beginConnect.1 = .ok k) : w.Apart busy k ∧ k ∉ held := by
  -- The new attempt has a higher number than all that a task may belong to.
  have hnew : ∀ j, j ∈ v.scene.dials ∨ j ∈ v.scene.deliveries → j ≠ k := by
    obtain ⟨os, hos⟩ := h.reached
    intro j hj
    have hle := Scene.attempt_le options os j (hos ▸ hj)
    rw [← hos, h.client] at hle
    have heq : k = w.client.session.attempt + 1 := Round.attempt_of_beginConnect hk
    omega
  refine ⟨fun id task hid ht hjk => ?_, fun hmem => hnew k (.inl (h.dials k hmem).1) rfl⟩
  have hstands := h.tasks id task hid ht
  cases task with
  | connect | «over» => cases hjk
  | dial j plan =>
    cases hjk
    exact hnew k (.inl hstands) rfl
  | delivery j link stage =>
    cases hjk
    exact hnew k (.inr hstands.1) rfl

theorem beginConnect (h : Staged options shown busy held w v) :
    (∃ e, w.beginConnect.1 = .error e ∧
      Matched options shown busy held v w.beginConnect.2) ∨
    ∃ k plan, w.beginConnect.1 = .ok (k, plan) ∧
      Matched options shown busy (k :: held) v w.beginConnect.2 := by
  have ha : (v.scene.admits .beginConnect && v.awaits .beginConnect) = true := rfl
  have hact := h.act (f := Round.beginConnect) (a := .beginConnect) (fun _ => rfl) ha nofun rfl
  have htend := w.tended_enter Round.beginConnect
  cases hresult : (w.client.roundIn w.env).beginConnect.1 with
  | error e =>
    have hbegin : w.beginConnect = (.error e, (w.enter Round.beginConnect).2) := by
      unfold World.beginConnect
      dsimp only
      rw [show (w.enter Round.beginConnect).1 = .error e from hresult]
    rw [hbegin]
    exact .inl ⟨e, rfl, h.matched_act ha hact⟩
  | ok k =>
    obtain ⟨dialed, hbegin⟩ : ∃ dialed, w.beginConnect =
        (.ok (k, (w.enter Round.beginConnect).2.plan),
          { (w.enter Round.beginConnect).2 with dialed := dialed }) := by
      unfold World.beginConnect
      dsimp only
      rw [show (w.enter Round.beginConnect).1 = .ok k from hresult]
      exact ⟨_, rfl⟩
    have hdialed : (w.enter Round.beginConnect).2.Tended
        { (w.enter Round.beginConnect).2 with dialed := dialed } :=
      World.tended_of_eq rfl (le_refl _) rfl rfl rfl
    rw [hbegin]
    refine .inr ⟨k, _, rfl, h.matched_act ha ((hact.tend hdialed ⟨rfl, rfl, rfl, rfl⟩).hold ?_ ?_)⟩
    · rw [h.step_eq ha]
      simp only [Scene.arrange, hresult]
      exact List.mem_append_right _ (List.mem_singleton_self k)
    · exact (h.apart_of_beginConnect hresult).imp_left (·.tend (htend.trans hdialed))

theorem spawn (h : Staged options shown busy held w v) {task : Task}
    (hs : task.Stands v (w.tasks.size ∈ w.ready ++ [w.tasks.size]))
    (hk : ∀ k, task.attempt? = some k → w.Apart busy k ∧ k ∉ held) :
    Staged options shown busy held (w.spawn task) v := by
  have htask : ∀ {j : TaskId} {t : Task}, (w.spawn task).tasks[j]? = some t →
      j = w.tasks.size ∧ t = task ∨ w.tasks[j]? = some t := by
    intro j t ht
    rw [World.spawn, Array.getElem?_push] at ht
    split at ht
    · next heq => exact .inl ⟨heq, (Option.some.inj ht).symm⟩
    · exact .inr ht
  refine { h with
    past := h.shows_of ⟨rfl, rfl, rfl, rfl⟩
    tasks := ?tasks
    distinct := ?distinct
    dials := ?dials }
  case tasks =>
    intro j t hj ht
    rcases htask ht with ⟨rfl, rfl⟩ | ht
    · exact hs
    · exact (h.tasks j t hj ht).mono (List.mem_append_left _)
  case distinct =>
    intro i j s t k hi hj hs ht hsk htk
    rcases htask hs with ⟨hi', rfl⟩ | hs'
    · rcases htask ht with ⟨hj', -⟩ | ht'
      · exact hi'.trans hj'.symm
      · exact absurd htk ((hk k hsk).1 j t hj ht')
    · rcases htask ht with ⟨-, rfl⟩ | ht'
      · exact absurd hsk ((hk k htk).1 i s hi hs')
      · exact h.distinct i j s t k hi hj hs' ht' hsk htk
  case dials =>
    intro j hj
    refine ⟨(h.dials j hj).1, fun i t hi ht htj => ?_⟩
    rcases htask ht with ⟨-, rfl⟩ | ht
    · exact (hk j htj).2 hj
    · exact (h.dials j hj).2 i t hi ht htj

theorem spawnDelivery (h : Staged options shown busy held w v) (hk : w.Apart busy k ∧ k ∉ held)
    (hmem : k ∈ v.scene.deliveries) (hpost : v.post k = .looking) (link : TransportId) :
    Staged options shown busy held (w.spawnDelivery k link) v := by
  have hlinks : w.Tended { w with
      links := w.links.modify link fun l => { l with reader := .task w.tasks.size } } :=
    World.tended_of_eq rfl (by simp) rfl rfl rfl
  exact (h.tend hlinks ⟨rfl, rfl, rfl, rfl⟩).spawn ⟨hmem, hpost⟩ fun j hj => by
    cases hj
    exact hk.imp_left (·.tend hlinks)

/-- A connector comes back, with a transport or an error, while its call is held. -/
theorem finishConnect (h : Staged options shown busy (k :: held) w v) (plan : ConnectPlan) :
    Matched options shown busy held v (w.finishConnect k plan).2 := by
  have hk : w.Apart busy k ∧ k ∉ held :=
    ⟨(h.dials k List.mem_cons_self).2, (List.nodup_cons.mp h.nodup).1⟩
  have hmem : k ∈ v.scene.dials := (h.dials k List.mem_cons_self).1
  unfold World.finishConnect
  split
  · next message _ =>
    have ha : (v.scene.admits (.finishConnect k (.error (.transport (.text message)))) &&
        v.awaits (.finishConnect k (.error (.transport (.text message))))) = true := by
      simp [Scene.admits, Vigil.awaits, hmem]
    exact h.matched_act ha (h.drop.act (fun _ => rfl) ha (fun j hj => by cases hj; exact hk) rfl)
  · have hpush : w.Tended { w with links := w.links.push (.ofPlan plan) } :=
      World.tended_of_eq rfl (by simp) rfl rfl rfl
    -- The vigil does not know the new link yet; it hears of it from the report.
    have hpushed := h.drop.tend hpush ⟨rfl, rfl, rfl, rfl⟩
    generalize hw' : ({ w with links := w.links.push (.ofPlan plan) } : World) = w' at hpush hpushed
    have hsize : w.links.size < w'.links.size := by
      rw [← hw']
      simp
    have ha : (v.scene.admits (.finishConnect k (.ok w.links.size)) &&
        v.awaits (.finishConnect k (.ok w.links.size))) = true := by
      have hnew : w.links.size ∉ v.scene.transports := fun ht => lt_irrefl _ (h.links _ ht)
      simp [Scene.admits, Vigil.awaits, hmem, hnew]
    have hapart : ∀ j, (Activity.finishConnect k (.ok w.links.size)).attempt? = some j →
        w'.Apart busy j ∧ j ∉ held := by
      intro j hj
      cases hj
      exact hk.imp_left (·.tend hpush)
    have hact := hpushed.act (f := (·.finishConnect k (.ok w.links.size))) (fun _ => rfl) ha
      hapart (decide_eq_true hsize)
    have htend := w'.tended_enter (·.finishConnect k (.ok w.links.size))
    refine hpushed.matched_act ha ?_
    dsimp only
    split
    · next hok =>
      have hok' : ((w'.client.roundIn w'.env).finishConnect k (.ok w.links.size)).1 = .ok () := hok
      refine hact.spawnDelivery ((hapart k rfl).imp_left (·.tend htend)) ?_ ?_ w.links.size
      · rw [hpushed.step_eq ha]
        simp only [Scene.arrange, hok']
        exact List.mem_append_right _ (List.mem_singleton_self k)
      · rw [hpushed.step_eq ha]
        exact Vigil.post_setPost_self k _
    · exact hact.modifyLink _ _

end Staged

/-! ### All tasks -/

theorem Matched.trans {options : ClientOptions} {shown : List Deed} {busy busy' : Option TaskId}
    {held held' : List Nat} {v : Vigil} {w w' : World} (h : Matched options shown busy held v w)
    (h' : ∀ u, Staged options shown busy held w u → Matched options shown busy' held' u w') :
    Matched options shown busy' held' v w' := by
  obtain ⟨u, hgo, hclock, hstaged⟩ := h
  obtain ⟨u', hgo', hclock', hstaged'⟩ := h' u hstaged
  exact ⟨u', hgo.trans hgo', hclock'.trans hclock, hstaged'⟩

namespace Staged

variable {options : ClientOptions} {shown : List Deed} {held : List Nat} {w : World} {v : Vigil}
  {id : TaskId} {k : Nat}

theorem mark (h : Staged options shown (some id) held w v) (result : Except Error Unit) :
    Staged options shown (some id) held (w.mark (.connectEnded result)) v := by
  refine h.tend (World.tended_of_eq rfl (le_refl _) rfl rfl rfl) ⟨rfl, rfl, ?_, rfl⟩
  exact (List.filter_append _ _).trans (List.append_nil _)

theorem endConnect (h : Staged options shown (some id) (k :: held) w v) (plan : ConnectPlan) :
    Matched options shown none held v (w.endConnect id k plan) :=
  (h.finishConnect plan).trans fun _ hu => ((hu.mark _).finish).matched

theorem startConnect (h : Staged options shown none held w v) (id : TaskId) :
    Matched options shown none held v (w.startConnect id) := by
  unfold World.startConnect
  rcases (h.atWork id).beginConnect with ⟨e, hresult, hm⟩ | ⟨k, plan, hresult, hm⟩
  · dsimp only
    rw [hresult]
    exact hm.trans fun _ hu => ((hu.mark _).finish).matched
  · dsimp only
    rw [hresult]
    dsimp only
    split
    · exact hm.trans fun _ hu => hu.endConnect plan
    · next hdelay =>
      refine hm.trans fun u hu => matched ?_
      have hk := hu.dials k List.mem_cons_self
      have hdial : Staged options shown none held
          (w.beginConnect.2.setTask id (.dial k plan)) u :=
        hu.drop.setTask hk.1 fun j hj => by
          cases hj
          exact ⟨hk.2, (List.nodup_cons.mp hu.nodup).1⟩
      refine hdial.restUntil (Nat.lt_add_of_pos_right (Nat.pos_of_ne_zero hdelay)) fun task ht => ?_
      rcases World.tasks_setTask ht with ⟨-, rfl⟩ | ⟨hne, -⟩
      · exact hk.1
      · exact absurd rfl hne

theorem turn (h : Staged options shown none held w v) :
    Matched options shown none held v w.turn := by
  unfold World.turn
  split
  · exact h.matched
  · next id ready hready =>
    have hid : id ∈ w.ready := by simp [hready]
    split
    · exact h.startConnect id
    · next attempt plan ht =>
      have hstands : attempt ∈ v.scene.dials := h.stands ht
      exact ((h.atWork id).hold hstands (h.apart_of_task ht rfl)).endConnect plan
    · next ht => exact h.look ht hid
    · next ht => exact h.wait ht
    · next ht =>
      refine (h.rest fun task htask => ?_).matched
      cases ht.symm.trans htask
      trivial
    · next ht => exact (h.rest fun task htask => nomatch ht.symm.trans htask).matched

theorem settleUpTo (h : Staged options shown none held w v) (steps : Nat) :
    Matched options shown none held v (w.settleUpTo steps) := by
  induction steps generalizing w v with
  | zero => exact h.matched
  | succ steps ih =>
    unfold World.settleUpTo
    split
    · exact h.matched
    · exact h.turn.trans fun u hu => ih hu

end Staged

end Mqtt
