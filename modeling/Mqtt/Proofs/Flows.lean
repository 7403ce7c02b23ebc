import Mqtt.Proofs.Custody
import Mqtt.Proofs.Reception

/-!
# Flows

The packets that come in belong to flows: those of the client's operations and those of inbound
messages, each with its identifier. All that is recorded about a flow is its slot. A packet reads
and changes the slot of its own flow only, so that packets of different flows can come in in either
order, even where the server has chosen an identifier that the client uses as well.
-/

namespace Mqtt

/-- The exchange of an operation of the client, or of a message from the server. -/
inductive Flow
  | outbound (id : UInt16)
  | inbound (id : UInt16)
  deriving DecidableEq

/-- The flow of a packet that comes in, unless it concerns the connection as a whole. -/
def Packet.flow? : Packet → Option Flow
  | puback id | pubrec id | pubcomp id | unsuback id => some (.outbound id)
  | suback packet => some (.outbound packet.packetId)
  | publish message => some (.inbound message.packetId)
  | pubrel id => some (.inbound id)
  | connect _ | connack _ | subscribe _ | unsubscribe _ | pingreq | pingresp | disconnect => none

/-- All that is recorded about one flow. -/
structure Slot where
  publish : Option PendingPublish
  subscribe : Bool
  unsubscribe : Bool
  held : Option Publish

namespace Inflight

def slot (f : Inflight) : Flow → Slot
  | .outbound id =>
    ⟨f.publishes[id]?, f.subscribes.contains id, f.unsubscribes.contains id, none⟩
  | .inbound id => ⟨none, false, false, f.held[id]?⟩

theorem ext_slot {f g : Inflight} (h : ∀ x, f.slot x = g.slot x) : f = g := by
  obtain ⟨publishes, subscribes, unsubscribes, held⟩ := f
  obtain ⟨publishes', subscribes', unsubscribes', held'⟩ := g
  have hpublishes : publishes = publishes' :=
    Std.ExtTreeMap.ext_getElem? fun id => congrArg Slot.publish (h (.outbound id))
  have hsubscribes : subscribes = subscribes' :=
    Std.ExtTreeSet.ext_contains fun id => congrArg Slot.subscribe (h (.outbound id))
  have hunsubscribes : unsubscribes = unsubscribes' :=
    Std.ExtTreeSet.ext_contains fun id => congrArg Slot.unsubscribe (h (.outbound id))
  have hheld : held = held' :=
    Std.ExtTreeMap.ext_getElem? fun id => congrArg Slot.held (h (.inbound id))
  rw [hpublishes, hsubscribes, hunsubscribes, hheld]

/-! ### Other flows -/

section Frame

variable {f g : Inflight} {id : UInt16} {x : Flow}

theorem slot_completePublish_of_ne {phase : Phase} (h : f.completePublish id phase = some g)
    (hx : x ≠ .outbound id) : g.slot x = f.slot x := by
  obtain ⟨-, -, -, rfl⟩ := completePublish_some h
  cases x with
  | inbound a => rfl
  | outbound a =>
    have hne : id ≠ a := fun he => hx (by rw [he])
    simp [slot, Std.ExtTreeMap.getElem?_erase, hne]

theorem slot_onAck_of_ne {packet : Packet} (hp : packet.flow? = some (.outbound id))
    (h : f.onAck packet = some g) (hx : x ≠ .outbound id) : g.slot x = f.slot x := by
  cases packet with
  | puback _ | pubcomp _ =>
    cases hp
    exact slot_completePublish_of_ne h hx
  | suback packet =>
    cases hp
    simp only [onAck, onSuback] at h
    split_ifs at h
    cases h
    cases x with
    | inbound a => rfl
    | outbound a =>
      have hne : packet.packetId ≠ a := fun he => hx (by rw [he])
      simp [slot, Std.ExtTreeSet.contains_erase, hne]
  | unsuback _ =>
    cases hp
    simp only [onAck, onUnsuback] at h
    split_ifs at h
    cases h
    cases x with
    | inbound a => rfl
    | outbound a =>
      have hne : id ≠ a := fun he => hx (by rw [he])
      simp [slot, Std.ExtTreeSet.contains_erase, hne]
  | pubrec _ | connect _ | connack _ | publish _ | pubrel _ | subscribe _ | unsubscribe _ | pingreq
  | pingresp | disconnect => cases h

theorem slot_onPubrec_of_ne (h : f.onPubrec id = some g) (hx : x ≠ .outbound id) :
    g.slot x = f.slot x := by
  unfold onPubrec at h
  split at h
  · split at h
    · cases h
    · cases h
      cases x with
      | inbound a => rfl
      | outbound a =>
        have hne : id ≠ a := fun he => hx (by rw [he])
        simp [slot, Std.ExtTreeMap.getElem?_insert, hne]
    · cases h
      rfl
  · cases h

theorem slot_hold_of_ne (message : Publish) (hx : x ≠ .inbound message.packetId) :
    ((f.hold message).getD f).slot x = f.slot x := by
  unfold hold
  split_ifs
  · rfl
  · cases x with
    | outbound a => rfl
    | inbound a =>
      have hne : message.packetId ≠ a := fun he => hx (by rw [he])
      simp [slot, Std.ExtTreeMap.getElem?_insert, hne]

theorem slot_unhold_of_ne {message : Publish} (h : f.unhold id = some (message, g))
    (hx : x ≠ .inbound id) : g.slot x = f.slot x := by
  obtain ⟨-, rfl⟩ := unhold_some h
  cases x with
  | outbound a => rfl
  | inbound a =>
    have hne : id ≠ a := fun he => hx (by rw [he])
    simp [slot, Std.ExtTreeMap.getElem?_erase, hne]

end Frame

theorem slot_receive_of_ne (f : Inflight) {packet : Packet} {x y : Flow}
    (hp : packet.flow? = some x) (hne : y ≠ x) : (f.receive packet).slot y = f.slot y := by
  cases packet with
  | publish message =>
    cases hp
    simp only [receive]
    split_ifs
    · exact slot_hold_of_ne message hne
    · rfl
  | pubrel id =>
    cases hp
    cases hr : f.unhold id with
    | none => simp only [receive, hr]; rfl
    | some held =>
      simp only [receive, hr, Option.map_some, Option.getD_some]
      exact slot_unhold_of_ne hr hne
  | pubrec id =>
    cases hp
    cases hr : f.onPubrec id with
    | none => simp only [receive, hr, Option.getD_none]
    | some g =>
      simp only [receive, hr, Option.getD_some]
      exact slot_onPubrec_of_ne hr hne
  | puback _ | pubcomp _ | suback _ | unsuback _ =>
    obtain rfl := Option.some.inj hp
    simp only [receive]
    cases ha : f.onAck _ with
    | none => rfl
    | some g => exact slot_onAck_of_ne hp ha hne
  | connect _ | connack _ | subscribe _ | unsubscribe _ | pingreq | pingresp | disconnect =>
    cases hp

/-! ### The own flow -/

section Own

variable {f g : Inflight} {id : UInt16}

theorem map_slot_completePublish (h : g.slot (.outbound id) = f.slot (.outbound id))
    (phase : Phase) : (g.completePublish id phase).map (·.slot (.outbound id)) =
      (f.completePublish id phase).map (·.slot (.outbound id)) := by
  obtain ⟨hp, hs, hu, -⟩ := Slot.mk.inj h
  simp only [completePublish, hp]
  cases f.publishes[id]? with
  | none => rfl
  | some pending => by_cases hphase : pending.phase = phase <;> simp [hphase, slot, hs, hu]

theorem map_slot_onAck {packet : Packet} (hp : packet.flow? = some (.outbound id))
    (h : g.slot (.outbound id) = f.slot (.outbound id)) :
    (g.onAck packet).map (·.slot (.outbound id)) =
      (f.onAck packet).map (·.slot (.outbound id)) := by
  cases packet with
  | puback _ | pubcomp _ =>
    cases hp
    exact map_slot_completePublish h _
  | suback packet =>
    cases hp
    obtain ⟨hp, hs, hu, -⟩ := Slot.mk.inj h
    simp only [onAck, onSuback, hs]
    split_ifs <;> simp [slot, hp, hu]
  | unsuback _ =>
    cases hp
    obtain ⟨hp, hs, hu, -⟩ := Slot.mk.inj h
    simp only [onAck, onUnsuback, hu]
    split_ifs <;> simp [slot, hp, hs]
  | pubrec _ | connect _ | connack _ | publish _ | pubrel _ | subscribe _ | unsubscribe _ | pingreq
  | pingresp | disconnect => rfl

theorem map_slot_onPubrec (h : g.slot (.outbound id) = f.slot (.outbound id)) :
    (g.onPubrec id).map (·.slot (.outbound id)) =
      (f.onPubrec id).map (·.slot (.outbound id)) := by
  obtain ⟨hp, hs, hu, -⟩ := Slot.mk.inj h
  simp only [onPubrec, hp]
  cases f.publishes[id]? with
  | none => rfl
  | some pending =>
    obtain ⟨packet, phase⟩ := pending
    cases phase with
    | awaitingAck => rfl
    | awaitingReceipt => simp [slot, hs, hu]
    | awaitingCompletion => exact congrArg some h

theorem slot_hold {message : Publish}
    (h : g.slot (.inbound message.packetId) = f.slot (.inbound message.packetId)) :
    ((g.hold message).getD g).slot (.inbound message.packetId) =
      ((f.hold message).getD f).slot (.inbound message.packetId) := by
  have hheld : g.held[message.packetId]? = f.held[message.packetId]? := congrArg Slot.held h
  simp only [slot, held_hold, hheld]

theorem slot_unhold (h : g.slot (.inbound id) = f.slot (.inbound id)) :
    (((g.unhold id).map Prod.snd).getD g).slot (.inbound id) =
        (((f.unhold id).map Prod.snd).getD f).slot (.inbound id) ∧
      (g.unhold id).map Prod.fst = (f.unhold id).map Prod.fst := by
  have hheld : g.held[id]? = f.held[id]? := congrArg Slot.held h
  simp only [unhold, hheld]
  cases f.held[id]? with
  | none => exact ⟨h, rfl⟩
  | some message => simp [slot]

theorem slot_getD {o o' : Option Inflight} {x : Flow} (h : g.slot x = f.slot x)
    (ho : o'.map (·.slot x) = o.map (·.slot x)) :
    (o'.getD g).slot x = (o.getD f).slot x ∧ o'.isSome = o.isSome := by
  cases o with
  | none =>
    rw [Option.map_none, Option.map_eq_none_iff] at ho
    rw [ho]
    exact ⟨h, rfl⟩
  | some u =>
    obtain ⟨v, rfl, hv⟩ := Option.map_eq_some_iff.mp ho
    exact ⟨hv, rfl⟩

theorem completed?_congr {packet : Packet}
    (h : (g.onAck packet).isSome = (f.onAck packet).isSome) :
    g.completed? packet = f.completed? packet := by
  simp only [completed?, h]

end Own

/-- What a packet does to its own flow, and what comes of it, depends on that flow alone. -/
theorem receive_congr {f g : Inflight} {packet : Packet} {x : Flow} (hp : packet.flow? = some x)
    (h : g.slot x = f.slot x) :
    (g.receive packet).slot x = (f.receive packet).slot x ∧
      g.reply? packet = f.reply? packet ∧ g.event? packet = f.event? packet ∧
      g.completed? packet = f.completed? packet := by
  cases packet with
  | publish message =>
    cases hp
    refine ⟨?_, rfl, rfl, rfl⟩
    simp only [receive]
    split_ifs
    · exact slot_hold h
    · exact h
  | pubrel id =>
    cases hp
    obtain ⟨hslot, hmessage⟩ := slot_unhold h
    refine ⟨hslot, rfl, ?_, rfl⟩
    have hevents := congrArg (Option.map Event.publishReceived) hmessage
    rw [Option.map_map, Option.map_map] at hevents
    exact hevents
  | pubrec id =>
    cases hp
    obtain ⟨hslot, hsome⟩ := slot_getD h (map_slot_onPubrec h)
    refine ⟨hslot, ?_, rfl, rfl⟩
    simp only [reply?, hsome]
  | puback _ | pubcomp _ | suback _ | unsuback _ =>
    obtain rfl := Option.some.inj hp
    obtain ⟨hslot, hsome⟩ := slot_getD h (map_slot_onAck hp h)
    have hcompleted := completed?_congr hsome
    refine ⟨hslot, rfl, ?_, hcompleted⟩
    simp only [event?, hcompleted]
  | connect _ | connack _ | subscribe _ | unsubscribe _ | pingreq | pingresp | disconnect =>
    cases hp

/-! ### Two flows -/

section Two

variable (f : Inflight) {p q : Packet} {x y : Flow} (hp : p.flow? = some x) (hq : q.flow? = some y)
  (hne : x ≠ y)
include hp hq hne

theorem receive_congr_receive :
    ((f.receive q).receive p).slot x = (f.receive p).slot x ∧
      (f.receive q).reply? p = f.reply? p ∧ (f.receive q).event? p = f.event? p ∧
      (f.receive q).completed? p = f.completed? p :=
  receive_congr hp (slot_receive_of_ne f hq hne)

theorem receive_comm : (f.receive p).receive q = (f.receive q).receive p := by
  apply ext_slot
  intro z
  by_cases hx : z = x
  · subst hx
    rw [slot_receive_of_ne _ hq hne]
    exact (f.receive_congr_receive hp hq hne).1.symm
  · by_cases hy : z = y
    · subst hy
      rw [(f.receive_congr_receive hq hp hne.symm).1]
      exact (slot_receive_of_ne _ hp hne.symm).symm
    · rw [slot_receive_of_ne _ hq hy, slot_receive_of_ne _ hp hx, slot_receive_of_ne _ hp hx,
        slot_receive_of_ne _ hq hy]

end Two

end Inflight

theorem PacketIds.release_comm (ids : PacketIds) (a b : UInt16) :
    (ids.release a).release b = (ids.release b).release a := by
  have hbound : (ids.bound.erase a).erase b = (ids.bound.erase b).erase a := by
    apply Std.ExtTreeSet.ext_contains
    intro id
    simp only [Std.ExtTreeSet.contains_erase]
    exact Bool.and_left_comm ..
  simp only [release, hbound]

namespace Session

section Two

variable (s : Session) {p q : Packet} {x y : Flow} (hp : p.flow? = some x) (hq : q.flow? = some y)
  (hne : x ≠ y)
include hp hq hne

theorem received_comm : (s.received p).received q = (s.received q).received p := by
  obtain ⟨-, hreply, -, hcompleted⟩ := s.inflight.receive_congr_receive hp hq hne
  obtain ⟨-, hreply', -, hcompleted'⟩ := s.inflight.receive_congr_receive hq hp hne.symm
  simp only [received, hreply, hreply', hcompleted, hcompleted', s.inflight.receive_comm hp hq hne]
  congr 1
  · cases s.inflight.completed? p <;> cases s.inflight.completed? q
    · rfl
    · rfl
    · rfl
    · exact PacketIds.release_comm ..
  · split_ifs <;> rfl

theorem reception_received :
    ((s.received q).reception p).io = (s.reception p).io ∧
      ((s.received q).reception p).events = (s.reception p).events := by
  obtain ⟨-, hreply, hevent, -⟩ := s.inflight.receive_congr_receive hp hq hne
  refine ⟨?_, ?_⟩
  · simp only [reception, received, hreply]
  · simp only [reception, received, hevent]

end Two

theorem yield_of_second {s : Session} {a b : Arrival} (hs : s.status = .connected)
    (hnow : a.now = b.now) (ha : (Move.mk s (a.action s.attempt)).Unhindered)
    (hb : (Move.mk (Move.mk s (a.action s.attempt)).after (b.action s.attempt)).Unhindered) :
    let m := Move.mk (Move.mk s (a.action s.attempt)).after (b.action s.attempt)
    (⟨m.result, m.after, m.events, m.io⟩ : Yield) =
        ((s.atTime a.now).received a.packet).reception b.packet ∧
      (((s.inflight.receive a.packet).reply? b.packet).isSome → s.writeError b.fault = none) := by
  have hafter : (Move.mk s (a.action s.attempt)).after = (s.atTime a.now).received a.packet :=
    congrArg Yield.session (yield_of_arrival hs ha).1
  rw [hafter] at hb ⊢
  obtain ⟨hy, hw⟩ := yield_of_arrival (s := (s.atTime a.now).received a.packet) (a := b) hs hb
  have hu : ((s.atTime a.now).received a.packet).atTime b.now =
      (s.atTime a.now).received a.packet := by
    rw [← hnow]
    rfl
  rw [hu] at hy
  exact ⟨hy, hw⟩

/-- Packets of different flows can come in in either order. On an accepted connection, whatever has
happened before, and as long as the answers can be written: the session ends up the same, and each
packet has the same result, events and writes. -/
theorem independent_flows_commute (s : Session) (hs : s.status = .connected) (a b : Arrival)
    (hnow : a.now = b.now) (x y : Flow) (ha : a.packet.flow? = some x)
    (hb : b.packet.flow? = some y) (hne : x ≠ y)
    (hm : ∀ m ∈ s.moves [a.action s.attempt, b.action s.attempt], m.Unhindered) :
    let a₁ := Move.mk s (a.action s.attempt)
    let b₂ := Move.mk a₁.after (b.action s.attempt)
    let b₁ := Move.mk s (b.action s.attempt)
    let a₂ := Move.mk b₁.after (a.action s.attempt)
    b₂.after = a₂.after ∧
      (a₁.result = a₂.result ∧ a₁.events = a₂.events ∧ a₁.io = a₂.io) ∧
      b₁.result = b₂.result ∧ b₁.events = b₂.events ∧ b₁.io = b₂.io := by
  intro a₁ b₂ b₁ a₂
  have hma : a₁.Unhindered := hm a₁ List.mem_cons_self
  have hmb : b₂.Unhindered := hm b₂ (List.mem_cons_of_mem _ List.mem_cons_self)
  obtain ⟨hya, hwa⟩ := yield_of_arrival hs hma
  obtain ⟨hyb, hwb⟩ := yield_of_second hs hnow hma hmb
  have hreply := (s.inflight.receive_congr_receive ha hb hne).2.1
  have hreply' := (s.inflight.receive_congr_receive hb ha hne.symm).2.1
  -- What could be written in the one order can be written in the other.
  have hmb' : b₁.Unhindered := unhindered_of_reply fun hr => hwb (hreply' ▸ hr)
  obtain ⟨hyb', -⟩ := yield_of_arrival hs hmb'
  have hafter : b₁.after = (s.atTime b.now).received b.packet := congrArg Yield.session hyb'
  have hma' : a₂.Unhindered := by
    simp only [a₂, hafter]
    exact unhindered_of_reply (s := (s.atTime b.now).received b.packet) fun hr => hwa (hreply ▸ hr)
  obtain ⟨hya', -⟩ := yield_of_second hs hnow.symm hmb' hma'
  rw [← hnow] at hyb' hya'
  obtain ⟨hioa, heventsa⟩ := reception_received (s.atTime a.now) ha hb hne
  obtain ⟨hiob, heventsb⟩ := reception_received (s.atTime a.now) hb ha hne.symm
  refine ⟨?_, ⟨?_, ?_, ?_⟩, ?_, ?_, ?_⟩
  · exact (congrArg Yield.session hyb).trans
      ((received_comm _ ha hb hne).trans (congrArg Yield.session hya').symm)
  · exact (congrArg Yield.result hya).trans (congrArg Yield.result hya').symm
  · exact (congrArg Yield.events hya).trans
      (heventsa.symm.trans (congrArg Yield.events hya').symm)
  · exact (congrArg Yield.io hya).trans (hioa.symm.trans (congrArg Yield.io hya').symm)
  · exact (congrArg Yield.result hyb').trans (congrArg Yield.result hyb).symm
  · exact (congrArg Yield.events hyb').trans
      (heventsb.symm.trans (congrArg Yield.events hyb).symm)
  · exact (congrArg Yield.io hyb').trans (hiob.symm.trans (congrArg Yield.io hyb).symm)

/-- The server releases its message 1 and acknowledges the client's publish 1. -/
theorem independent_flows_commute_same_id :
    let as : List Action :=
      [⟨.startConnect "", 0, none⟩, ⟨.report 1 (.opened 0), 0, none⟩,
        ⟨.report 1 (.received (.connack ⟨false, .accepted⟩)), 0, none⟩,
        ⟨.request (.publish ⟨0, "a", .exactlyOnce, false, false, .empty⟩), 0, none⟩,
        ⟨.report 1 (.received (.publish ⟨1, "b", .exactlyOnce, false, false, .empty⟩)), 0, none⟩]
    let s := (new {}).run as
    let pubrec : Arrival := ⟨.pubrec 1, 0, none⟩
    let pubrel : Arrival := ⟨.pubrel 1, 0, none⟩
    (∀ m ∈ s.moves [pubrec.action 1, pubrel.action 1], m.Unhindered) ∧
      (s.run [pubrec.action 1, pubrel.action 1]).inflight =
        (s.run [pubrel.action 1, pubrec.action 1]).inflight ∧
      (s.moves [pubrel.action 1, pubrec.action 1]).map Move.io =
        [[.wrote 0 (.pubcomp 1)], [.wrote 0 (.pubrel 1)]] := by
  intro as s pubrec pubrel
  have hfault : ∀ a ∈ [pubrec, pubrel], a.fault = none := by simp [pubrec, pubrel]
  have hm := unhindered_of_transport (s := s) rfl rfl [pubrec, pubrel] hfault
  obtain ⟨hafter, ⟨-, -, hpubrec⟩, -, -, hpubrel⟩ := independent_flows_commute s rfl pubrec pubrel
    rfl (.outbound 1) (.inbound 1) rfl rfl (by decide) hm
  have hio : (s.moves [pubrel.action 1, pubrec.action 1]).map Move.io = [_, _] :=
    congrArg₂ (fun first second => [first, second]) hpubrel hpubrec.symm
  exact ⟨hm, congrArg Session.inflight hafter, hio⟩

end Session
end Mqtt
