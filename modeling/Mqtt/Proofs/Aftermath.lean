import Mqtt.Proofs.Armed
import Mqtt.Proofs.Bookkeeping
import Mqtt.Proofs.ExactlyOnce
import Mqtt.Proofs.Likeness

/-!
# What a connection leaves to the next

Not every way to the end of a connection clears all of the session. An attempt that fails clears
nothing, one that is refused leaves the pending operations alone. Where reports come from a network,
what they pass over is empty by then, so that the next attempt always begins as a first one would.
-/

namespace Mqtt

theorem Inflight.eq_of_operation? {f : Inflight} (h : ∀ id, f.operation? id = none) :
    f = { held := f.held } := by
  have hnone := fun id => (f.operation?_eq_none_iff id).mp (h id)
  have hp : f.publishes = ∅ :=
    Std.ExtTreeMap.eq_empty_iff_forall_not_mem.mpr fun id => (hnone id).1
  have hs : f.subscribes = ∅ :=
    Std.ExtTreeSet.eq_empty_iff_forall_not_mem.mpr fun id => (hnone id).2.1
  have hu : f.unsubscribes = ∅ :=
    Std.ExtTreeSet.eq_empty_iff_forall_not_mem.mpr fun id => (hnone id).2.2
  obtain ⟨publishes, subscribes, unsubscribes, held⟩ := f
  cases hp
  cases hs
  cases hu
  rfl

namespace Session

/-- A session between connections, by all that it can still know. -/
def between (o : ConnectOptions) (now : Int) (clientId : String) (attempt : Nat) (next : UInt16)
    (held : Std.ExtTreeMap UInt16 Publish compare) : Session :=
  { new o with
    now := now
    clientId := clientId
    attempt := attempt
    ids := { next := next }
    inflight := { held := held } }

theorem Armed.keepAlive_eq {s : Session} (h : Armed s) (ht : s.transport = none) :
    s.keepAlive = (new s.options).keepAlive := by
  have hlast : s.keepAlive.lastWrite = none := by
    rw [← Option.isNone_iff_eq_none, ← Option.isSome_eq_false_iff, h.lastWrite, ht]
    rfl
  have hinterval := h.interval
  generalize s.keepAlive = k at hlast hinterval ⊢
  obtain ⟨interval, lastWrite⟩ := k
  cases hlast
  cases hinterval
  rfl

theorem eq_between {s : Session} (hs : s.status = .disconnected) (ht : s.transport = none)
    (hb : Bookkeeping s) (ha : Armed s) :
    s = between s.options s.now s.clientId s.attempt s.ids.next s.inflight.held := by
  have hoff : s.status ≠ .connected := by simp [hs]
  have hids : s.ids = { next := s.ids.next } := by
    have hempty : s.ids.bound = ∅ :=
      Std.ExtTreeSet.eq_empty_iff_forall_contains.mpr (hb.offline hoff)
    rw [← hempty]
  have hinflight : s.inflight = { held := s.inflight.held } := by
    apply Inflight.eq_of_operation?
    intro id
    have hbound := hb.offline hoff id
    rw [hb.isBound_eq, Option.isSome_eq_false_iff, Option.isNone_iff_eq_none] at hbound
    exact hbound
  unfold between
  rw [← hids, ← hinflight]
  calc s = { s with
        status := .disconnected, transport := none, keepAlive := (new s.options).keepAlive } := by
        rw [← hs, ← ht, ← ha.keepAlive_eq ht]
    _ = _ := rfl

/-- Where reports come from a network, a session between connections is a new one, but for the
client identifier, the number of attempts, where the round of packet identifiers stands, the clock,
and the messages held for a session that outlives its connections. -/
theorem between_run (o : ConnectOptions) (as : List Action) (h : Networked ((new o).moves as))
    (hs : ((new o).run as).status = .disconnected) :
    let s := (new o).run as
    s = between o s.now s.clientId s.attempt s.ids.next s.inflight.held ∧
      (o.cleanSession → s.inflight.held = ∅) := by
  intro s
  have ht : s.transport = none := by
    by_contra hne
    exact (wired_run o as h).status (Option.isSome_iff_ne_none.mpr hne) hs
  have heq := eq_between hs ht (bookkeeping_run o as) (armed_run o as)
  rw [options_run] at heq
  refine ⟨heq, ?_⟩
  intro hc
  apply (holding_run o as).offline
  · rw [options_run]
    exact hc
  · simp [hs]

/-- Nothing leaks from one connection into the next. After a run whose reports come from a network,
a session without a connection is a new one in all but the client identifier, the number of
attempts, the next packet identifier, the clock, and the messages that it holds if it is to outlive
connections. So if it is not, another such run with the same identifier, number and next packet
identifier has led to the same: whatever is asked of the two next, the replies are equal. -/
theorem nothing_left_behind (o : ConnectOptions) (as : List Action)
    (h : Networked ((new o).moves as)) (hs : ((new o).run as).status = .disconnected) :
    let s := (new o).run as
    s = between o s.now s.clientId s.attempt s.ids.next s.inflight.held ∧
    (o.cleanSession → s.inflight.held = ∅ ∧
      ∀ bs, Networked ((new o).moves bs) →
        let s' := (new o).run bs
        s'.status = .disconnected → s'.clientId = s.clientId → s'.attempt = s.attempt →
        s'.ids.next = s.ids.next →
        ∀ cs, (s'.moves cs).map Move.reply = (s.moves cs).map Move.reply) := by
  intro s
  obtain ⟨heq, hheld⟩ := between_run o as h hs
  refine ⟨heq, fun hc => ⟨hheld hc, ?_⟩⟩
  intro bs hbs s' hs' hid hattempt hnext cs
  obtain ⟨heq', hheld'⟩ := between_run o bs hbs hs'
  have halike : Alike s' s := by
    unfold Alike
    calc s'.atTime s.now
        = (between o s'.now s'.clientId s'.attempt s'.ids.next s'.inflight.held).atTime s.now :=
          congrArg (·.atTime s.now) heq'
      _ = between o s.now s'.clientId s'.attempt s'.ids.next s'.inflight.held := rfl
      _ = between o s.now s.clientId s.attempt s.ids.next s.inflight.held := by
        rw [hid, hattempt, hnext, hheld' hc, hheld hc]
      _ = s := heq.symm
  exact (halike.run cs).1

/-- A connection that is lost with a message under way. -/
theorem nothing_left_behind_lost :
    let begins : Action := ⟨.startConnect "", 0, none⟩
    let opens : Action := ⟨.report 1 (.opened 0), 0, none⟩
    let accepts : Action := ⟨.report 1 (.received (.connack ⟨false, .accepted⟩)), 0, none⟩
    let publishes : Action :=
      ⟨.request (.publish ⟨0, "a", .atLeastOnce, false, false, .empty⟩), 0, none⟩
    let closes : Action := ⟨.report 1 .closed, 0, none⟩
    let used := [begins, opens, accepts, publishes]
    Networked ((new {}).moves (used ++ [closes])) ∧
      ((new {}).run used).inflight.pendingCount = 1 ∧
      (new {}).run (used ++ [closes]) = between {} 0 "" 1 2 ∅ := by
  intro begins opens accepts publishes closes used
  have hbegun : ∀ as, 1 ∈ begun ((new {}).moves (begins :: as)) := fun as =>
    List.mem_filterMap.mpr ⟨⟨new {}, begins⟩, List.mem_cons_self, rfl⟩
  have hopened : ∀ as, (1, 0) ∈ openings ((new {}).moves (begins :: opens :: as)) := fun as =>
    List.mem_filterMap.mpr
      ⟨⟨_, opens⟩, List.mem_cons_of_mem _ List.mem_cons_self, rfl⟩
  have h₁ : Networked ((new {}).moves [begins]) :=
    (networked_moves_concat (new {}) [] begins).mpr ⟨networked_nil, trivial⟩
  have h₂ : Networked ((new {}).moves [begins, opens]) :=
    (networked_moves_concat (new {}) [begins] opens).mpr
      ⟨h₁, hbegun [], List.not_mem_nil, fun _ => List.not_mem_nil⟩
  have h₃ : Networked ((new {}).moves [begins, opens, accepts]) :=
    (networked_moves_concat (new {}) [begins, opens] accepts).mpr ⟨h₂, hbegun _, 0, hopened _⟩
  have h₄ : Networked ((new {}).moves used) :=
    (networked_moves_concat (new {}) [begins, opens, accepts] publishes).mpr ⟨h₃, trivial⟩
  have h : Networked ((new {}).moves (used ++ [closes])) :=
    (networked_moves_concat (new {}) used closes).mpr ⟨h₄, hbegun _, 0, hopened _⟩
  have hpending : ((new {}).run used).inflight.pendingCount = 1 := by
    simp only [used, begins, opens, accepts, publishes]
    decide +kernel
  obtain ⟨hs, hnow, hid, hattempt, hnext⟩ :
      ((new {}).run (used ++ [closes])).status = .disconnected ∧
      ((new {}).run (used ++ [closes])).now = 0 ∧
      ((new {}).run (used ++ [closes])).clientId = "" ∧
      ((new {}).run (used ++ [closes])).attempt = 1 ∧
      ((new {}).run (used ++ [closes])).ids.next = 2 := by
    simp only [used, begins, opens, accepts, publishes, closes]
    decide +kernel
  obtain ⟨heq, hclean⟩ := nothing_left_behind {} (used ++ [closes]) h hs
  rw [hnow, hid, hattempt, hnext, (hclean rfl).1] at heq
  exact ⟨h, hpending, heq⟩

end Session
end Mqtt
