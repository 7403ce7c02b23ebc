import Mqtt.Proofs.Acknowledgement
import Mqtt.Proofs.Reception

/-!
# Answers in order

Packets that come in on an accepted connection are answered one after the other, and what the
answers are can be read off the packets alone, given what was pending and held before the first of
them: an operation is pending until its exchange is over, and a message held from its arrival to its
release.
-/

namespace Mqtt

/-- The kind of a packet, if it acknowledges an operation under the identifier. -/
def Packet.ackUnder? (packet : Packet) (id : UInt16) : Option PacketKind :=
  match packet.ack? with
  | some (kind, a) => if a = id then some kind else none
  | none => none

/-- The message of the highest level of service that a packet brings under an identifier. -/
def Packet.offered? (packet : Packet) (id : UInt16) : Option Publish :=
  match packet with
  | .publish message =>
    if message.qos = .exactlyOnce ∧ message.packetId = id then some message else none
  | _ => none

def Abandoned.callsForRelease (operation : Abandoned) (id : UInt16) : Bool :=
  match operation with
  | .publish message => message.packetId = id && message.qos = .exactlyOnce
  | .subscribe _ | .unsubscribe _ => false

def Event.message? : Event → Option Publish
  | publishReceived message => some message
  | _ => none

/-- The answer to a packet while these operations are pending. -/
def Packet.answer? (pending : List Abandoned) : Packet → Option Packet
  | .publish message =>
    match message.qos with
    | .atMostOnce => none
    | .atLeastOnce => some (.puback message.packetId)
    | .exactlyOnce => some (.pubrec message.packetId)
  | .pubrec id => if pending.any (·.callsForRelease id) then some (.pubrel id) else none
  | .pubrel id => some (.pubcomp id)
  | _ => none

/-- The message that a packet delivers while these messages are held. -/
def Packet.delivery? (held : UInt16 → Option Publish) : Packet → Option Publish
  | .publish message => if message.qos = .exactlyOnce then none else some message
  | .pubrel id => held id
  | _ => none

def heardUnder (id : UInt16) (packets : List Packet) : List PacketKind :=
  packets.filterMap (·.ackUnder? id)

namespace Inflight

/-- The operations that are still pending after some packets: those whose exchange is not over. -/
def pendingAfter (f : Inflight) (packets : List Packet) : List Abandoned :=
  f.pending.filter fun operation =>
    !decide ((f.awaits operation.packetId).Sublist (heardUnder operation.packetId packets))

/-- The message that is held under an identifier after some packets: the first that has come in
since its last release, unless there has been none and one was held before. -/
def heldAfter? (f : Inflight) (packets : List Packet) (id : UInt16) : Option Publish :=
  (if .pubrel id ∈ packets then none else f.held[id]?).or
    ((packets.rtakeWhile (· ≠ .pubrel id)).findSome? (·.offered? id))

/-! ### One packet -/

theorem receive_of_ack? (f : Inflight) {packet : Packet} (h : packet.ack? = none) :
    ∃ held, f.receive packet = { f with held := held } := by
  cases packet with
  | publish message =>
    simp only [receive, hold]
    split_ifs
    · exact ⟨_, rfl⟩
    · exact ⟨_, rfl⟩
    · exact ⟨_, rfl⟩
  | pubrel id =>
    cases hr : f.unhold id with
    | none => exact ⟨f.held, by simp only [receive, hr]; rfl⟩
    | some held =>
      obtain ⟨message, g⟩ := held
      obtain ⟨-, rfl⟩ := unhold_some hr
      exact ⟨_, by simp only [receive, hr]; rfl⟩
  | connect _ | connack _ | subscribe _ | unsubscribe _ | pingreq | pingresp | disconnect =>
    exact ⟨f.held, rfl⟩
  | puback _ | pubrec _ | pubcomp _ | suback _ | unsuback _ => cases h

theorem receive_of_completion (f : Inflight) {packet : Packet} {a : UInt16} {event : Event}
    (h : packet.completion = some (a, event)) :
    f.receive packet = (f.onAck packet).getD f := by
  cases packet <;> cases h <;> rfl

/-- What a packet does to the operations: what is awaited advances, and an operation stays as it is
or is over. -/
structure Heard (f g : Inflight) (packet : Packet) : Prop where
  orderly : g.Orderly
  awaits : ∀ id, g.awaits id = (packet.ackUnder? id).toList.foldl advance (f.awaits id)
  operation? : ∀ id, g.operation? id = f.operation? id ∨ g.operation? id = none

theorem Heard.of_ack {f g : Inflight} {packet : Packet} {kind : PacketKind} {a : UInt16}
    (hk : packet.ack? = some (kind, a)) (horderly : g.Orderly)
    (hawaits : ∀ id, g.awaits id = if id = a then advance (f.awaits a) kind else f.awaits id)
    (hoperation : ∀ id, g.operation? id = f.operation? id ∨ g.operation? id = none) :
    Heard f g packet := by
  refine ⟨horderly, fun id => ?_, hoperation⟩
  simp only [hawaits, Packet.ackUnder?, hk]
  by_cases he : id = a
  · subst he
    simp
  · have he' : a ≠ id := fun hai => he hai.symm
    simp [he, he']

theorem Heard.of_unawaited {f : Inflight} {packet : Packet} {kind : PacketKind} {a : UInt16}
    (hk : packet.ack? = some (kind, a)) (horderly : f.Orderly)
    (hne : (f.awaits a).head? ≠ some kind) : Heard f f packet := by
  refine .of_ack hk horderly (fun id => ?_) fun _ => .inl rfl
  rw [advance_of_ne hne]
  split_ifs with he
  · rw [he]
  · rfl

theorem Orderly.heard {f : Inflight} (h : f.Orderly) (packet : Packet) :
    Heard f (f.receive packet) packet := by
  cases hk : packet.ack? with
  | none =>
    obtain ⟨held, hr⟩ := f.receive_of_ack? hk
    rw [hr]
    refine ⟨⟨h.packetId_eq, h.qos_ne, h.phase_iff, h.not_mem_subscribes, h.not_mem_unsubscribes,
      h.disjoint⟩, fun id => ?_, fun _ => .inl rfl⟩
    simp only [Packet.ackUnder?, hk]
    rfl
  | some ack =>
    obtain ⟨kind, a⟩ := ack
    rcases Packet.eq_pubrec_or_completion hk with ⟨rfl, rfl⟩ | ⟨event, hc⟩
    · cases hr : f.onPubrec a with
      | none =>
        simp only [receive, hr, Option.getD_none]
        exact .of_unawaited hk h (head?_awaits_of_onPubrec hr)
      | some g =>
        simp only [receive, hr, Option.getD_some]
        obtain ⟨hg, -, ho⟩ := h.onPubrec hr
        exact .of_ack hk hg (awaits_onPubrec hr) fun id => .inl (ho id)
    · rw [f.receive_of_completion hc]
      cases ha : f.onAck packet with
      | none => exact .of_unawaited hk h (head?_awaits_of_onAck (Option.isSome_of_eq_some hc) hk ha)
      | some g =>
        obtain ⟨hg, -, -, -, ho⟩ := h.onAck hc ha
        refine .of_ack hk hg (h.awaits_onAck hc hk ha) fun id => ?_
        rw [Option.getD_some, ho]
        split_ifs
        · exact .inr rfl
        · exact .inl rfl

theorem held_receive_of_ack? (f : Inflight) {packet : Packet} {kind : PacketKind} {a : UInt16}
    (h : packet.ack? = some (kind, a)) : (f.receive packet).held = f.held := by
  rcases Packet.eq_pubrec_or_completion h with ⟨rfl, rfl⟩ | ⟨event, hc⟩
  · cases hr : f.onPubrec a with
    | none => simp only [receive, hr, Option.getD_none]
    | some g => simpa only [receive, hr, Option.getD_some] using onPubrec_held hr
  · rw [f.receive_of_completion hc]
    cases ha : f.onAck packet with
    | none => rfl
    | some g => exact onAck_held ha

/-- A message is held until it is released; until then no other takes its place. -/
theorem held_receive (f : Inflight) (packet : Packet) (id : UInt16) :
    (f.receive packet).held[id]? =
      if packet = .pubrel id then none else f.held[id]?.or (packet.offered? id) := by
  cases packet with
  | publish message =>
    simp only [receive, Packet.offered?, reduceCtorEq, if_false]
    by_cases hq : message.qos = .exactlyOnce
    · rw [if_pos hq, held_hold]
      simp only [hq, true_and]
    · simp [hq]
  | pubrel a =>
    simp only [receive, Packet.offered?, Packet.pubrel.injEq, Option.or_none]
    cases hr : f.unhold a with
    | none =>
      split_ifs with he
      · subst he
        exact unhold_none hr
      · rfl
    | some held =>
      obtain ⟨message, g⟩ := held
      obtain ⟨-, rfl⟩ := unhold_some hr
      simp [Std.ExtTreeMap.getElem?_erase]
  | puback _ | pubrec _ | pubcomp _ | suback _ | unsuback _ =>
    rw [f.held_receive_of_ack? rfl]
    exact Option.or_none.symm
  | connect _ | connack _ | subscribe _ | unsubscribe _ | pingreq | pingresp | disconnect =>
    exact Option.or_none.symm

/-! ### Many packets -/

/-- What some packets leave to wait for, and that an operation is over once nothing is left. -/
theorem Orderly.heard_foldl {f : Inflight} (h : f.Orderly) (packets : List Packet) :
    (packets.foldl receive f).Orderly ∧ ∀ id,
      (packets.foldl receive f).awaits id = (heardUnder id packets).foldl advance (f.awaits id) ∧
      ((packets.foldl receive f).operation? id = f.operation? id ∨
        (packets.foldl receive f).operation? id = none) := by
  induction packets generalizing f with
  | nil => exact ⟨h, fun _ => ⟨rfl, .inl rfl⟩⟩
  | cons packet packets ih =>
    have hfirst := h.heard packet
    -- A packet takes operations away and adds none, so one that is over stays so.
    obtain ⟨horderly, hrest⟩ := ih hfirst.orderly
    refine ⟨horderly, fun id => ?_⟩
    obtain ⟨hawaits, hoperation⟩ := hrest id
    constructor
    · rw [List.foldl_cons, hawaits, hfirst.awaits]
      cases hk : packet.ackUnder? id <;> simp [heardUnder, hk]
    · rcases hoperation with ho | ho
      · rw [List.foldl_cons, ho]
        exact hfirst.operation? id
      · exact .inr ho

theorem Orderly.mem_pending_foldl {f : Inflight} (h : f.Orderly) (packets : List Packet)
    (operation : Abandoned) :
    operation ∈ (packets.foldl receive f).pending ↔ operation ∈ f.pendingAfter packets := by
  obtain ⟨horderly, hheard⟩ := h.heard_foldl packets
  obtain ⟨hawaits, hoperation⟩ := hheard operation.packetId
  have hover : (packets.foldl receive f).operation? operation.packetId = none ↔
      (f.awaits operation.packetId).Sublist (heardUnder operation.packetId packets) := by
    rw [← awaits_eq_nil_iff, hawaits, foldl_advance_eq_nil_iff]
  rw [pendingAfter, List.mem_filter, h.mem_pending_iff, horderly.mem_pending_iff,
    Bool.not_eq_true', decide_eq_false_iff_not, ← hover]
  constructor
  · intro ho
    rcases hoperation with heq | hnone
    · exact ⟨heq ▸ ho, by simp [ho]⟩
    · simp [ho] at hnone
  · rintro ⟨ho, hnot⟩
    exact (hoperation.resolve_right hnot).trans ho

theorem heldAfter?_concat (f : Inflight) (packets : List Packet) (packet : Packet) (id : UInt16) :
    f.heldAfter? (packets ++ [packet]) id =
      if packet = .pubrel id then none
      else (f.heldAfter? packets id).or (packet.offered? id) := by
  unfold heldAfter?
  by_cases hp : packet = .pubrel id
  · rw [List.rtakeWhile_concat_neg _ _ _ (by simp [hp]), if_pos hp, if_pos (by simp [hp])]
    rfl
  · have hmem : .pubrel id ∈ packets ++ [packet] ↔ .pubrel id ∈ packets := by
      simp [eq_comm, hp]
    rw [List.rtakeWhile_concat_pos _ _ _ (by simp [hp]), if_neg hp, List.findSome?_append,
      List.findSome?_singleton, Option.or_assoc]
    simp only [hmem]

theorem held_foldl (f : Inflight) (packets : List Packet) (id : UInt16) :
    (packets.foldl receive f).held[id]? = f.heldAfter? packets id := by
  induction packets using List.reverseRecOn with
  | nil => simp [heldAfter?]
  | append_singleton packets packet ih =>
    rw [List.foldl_concat, held_receive, heldAfter?_concat, ih]

/-! ### What is answered and delivered -/

theorem Orderly.isSome_onPubrec_iff {f : Inflight} (h : f.Orderly) (id : UInt16) :
    (f.onPubrec id).isSome ↔ f.pending.any (·.callsForRelease id) := by
  have hsome : (f.onPubrec id).isSome ↔ ∃ message : Publish,
      f.operation? id = some (.publish message) ∧ message.qos = .exactlyOnce := by
    rw [← Option.ne_none_iff_isSome, Ne, h.onPubrec_eq_none_iff]
    push Not
    rfl
  rw [hsome, List.any_eq_true]
  constructor
  · rintro ⟨message, ho, hq⟩
    have hid : message.packetId = id := h.packetId_operation? ho
    refine ⟨.publish message, (h.mem_pending_iff _).mpr ?_, ?_⟩
    · exact (congrArg f.operation? hid).trans ho
    · simp [Abandoned.callsForRelease, hid, hq]
  · rintro ⟨operation, hin, hcalls⟩
    cases operation with
    | publish message =>
      simp only [Abandoned.callsForRelease, Bool.and_eq_true, decide_eq_true_eq] at hcalls
      obtain ⟨rfl, hq⟩ := hcalls
      exact ⟨message, (h.mem_pending_iff _).mp hin, hq⟩
    | subscribe _ | unsubscribe _ => cases hcalls

theorem Orderly.reply?_foldl {f : Inflight} (h : f.Orderly) (packets : List Packet)
    (packet : Packet) :
    (packets.foldl receive f).reply? packet = packet.answer? (f.pendingAfter packets) := by
  cases packet with
  | pubrec id =>
    have hcalls : ((packets.foldl receive f).onPubrec id).isSome =
        (f.pendingAfter packets).any (·.callsForRelease id) := by
      rw [Bool.eq_iff_iff, (h.heard_foldl packets).1.isSome_onPubrec_iff]
      simp only [List.any_eq_true, h.mem_pending_foldl]
    simp only [reply?, Packet.answer?, hcalls]
  | _ => rfl

theorem message?_event? (f : Inflight) (packet : Packet) :
    (f.event? packet).bind Event.message? = packet.delivery? (f.held[·]?) := by
  have hcompleted : ∀ {p : Packet} {a : UInt16} {event : Event},
      p.completion = some (a, event) → event.message? = none →
        ((f.completed? p).map Prod.snd).bind Event.message? = none := by
    intro p a event hc he
    rw [completed?, hc]
    split_ifs
    · exact he
    · rfl
  cases packet with
  | publish message =>
    simp only [event?, Packet.delivery?]
    split_ifs
    · rfl
    · rfl
  | pubrel id =>
    simp only [event?, Packet.delivery?]
    cases hr : f.unhold id with
    | none => exact (unhold_none hr).symm
    | some held =>
      obtain ⟨message, g⟩ := held
      exact (unhold_some hr).1.symm
  | puback _ | pubcomp _ | suback _ | unsuback _ => exact hcompleted rfl rfl
  | connect _ | connack _ | pubrec _ | subscribe _ | unsubscribe _ | pingreq | pingresp
  | disconnect => rfl

theorem messages_event? (f : Inflight) (packet : Packet) :
    (f.event? packet).toList.filterMap Event.message? =
      (packet.delivery? (f.held[·]?)).toList := by
  rw [← message?_event?]
  cases f.event? packet with
  | none => rfl
  | some event => cases he : event.message? <;> simp [he]

end Inflight

namespace Session

/-- Packets are answered in the order in which they come in. Whatever comes in on an accepted
connection, as long as its answers can be written: each packet is answered by its own
acknowledgement, a receipt by a release if a publish at the highest level is still pending under its
identifier, and nothing else is written. Messages are delivered as they come in, those of the
highest level at their release. What is pending and what is held when a packet comes in follows from
the packets before it. -/
theorem answered_in_order (o : ConnectOptions) (as : List Action) (arrivals : List Arrival)
    (hs : ((new o).run as).status = .connected)
    (hm : ∀ m ∈ ((new o).run as).moves (arrivals.map (·.action ((new o).run as).attempt)),
      m.Unhindered) :
    let s := (new o).run as
    let f := s.inflight
    let ms := s.moves (arrivals.map (·.action s.attempt))
    let packets := arrivals.map Arrival.packet
    ms.map (fun m => m.io.filterMap Io.packet?) =
      packets.mapIdx (fun i packet => (packet.answer? (f.pendingAfter (packets.take i))).toList) ∧
    (∀ m ∈ ms, ∀ x ∈ m.io, ∃ transport reply,
      s.transport = some transport ∧ x = .wrote transport reply) ∧
    ms.map (fun m => m.events.filterMap Event.message?) =
      packets.mapIdx (fun i packet => (packet.delivery? (f.heldAfter? (packets.take i))).toList) ∧
    ∀ (i : Nat) (h : i < ms.length),
      (∀ operation, operation ∈ ms[i].before.inflight.pending ↔
        operation ∈ f.pendingAfter (packets.take i)) ∧
      ∀ id : UInt16, ms[i].before.inflight.held[id]? = f.heldAfter? (packets.take i) id := by
  intro s f ms packets
  have horderly : f.Orderly := (bookkeeping_run o as).orderly
  have hlength : ms.length = arrivals.length := by
    rw [← List.length_map Move.action, map_action_moves, List.length_map]
  have hreceived : ∀ (i : Nat) (h : i < ms.length) (h' : i < arrivals.length),
      Received s (packets.take i) arrivals[i].packet ms[i] := fun i h h' =>
    received_getElem hs arrivals hm i h h'
  refine ⟨?_, ?_, ?_, ?_⟩
  · apply List.ext_getElem
    · simp [packets, hlength]
    · intro i h h'
      have hr := hreceived i (by simpa using h) (by simpa [packets] using h')
      rw [List.getElem_map, List.getElem_mapIdx, List.getElem_map, hr.packets, hr.inflight,
        horderly.reply?_foldl]
  · intro m hin x hx
    obtain ⟨i, h, rfl⟩ := List.getElem_of_mem hin
    exact (hreceived i h (hlength ▸ h)).io x hx
  · apply List.ext_getElem
    · simp [packets, hlength]
    · intro i h h'
      have hr := hreceived i (by simpa using h) (by simpa [packets] using h')
      have hheld : (((packets.take i).foldl Inflight.receive f).held[·]?) =
          f.heldAfter? (packets.take i) := funext (f.held_foldl (packets.take i))
      rw [List.getElem_map, List.getElem_mapIdx, List.getElem_map, hr.events, hr.inflight,
        ← hheld, Inflight.messages_event?]
  · intro i h
    have hr := hreceived i h (hlength ▸ h)
    rw [hr.inflight]
    exact ⟨horderly.mem_pending_foldl (packets.take i), f.held_foldl (packets.take i)⟩

/-- Both directions under way at once: a receipt is answered until its publish is complete, and of
two messages under one identifier the first is delivered, once. -/
theorem answered_in_order_both_ways :
    let as : List Action :=
      [⟨.startConnect "", 0, none⟩, ⟨.report 1 (.opened 0), 0, none⟩,
        ⟨.report 1 (.received (.connack ⟨false, .accepted⟩)), 0, none⟩,
        ⟨.request (.publish ⟨0, "a", .exactlyOnce, false, false, .empty⟩), 0, none⟩]
    let packets : List Packet :=
      [.publish ⟨1, "b", .atLeastOnce, false, false, .empty⟩,
        .publish ⟨1, "c", .exactlyOnce, false, false, .empty⟩, .pubrec 1,
        .publish ⟨1, "d", .exactlyOnce, true, false, .empty⟩, .pubrec 1, .pubcomp 1, .pubrec 1,
        .pubrel 1, .pubrel 1]
    let arrivals : List Arrival := packets.map fun packet => ⟨packet, 0, none⟩
    let ms := ((new {}).run as).moves (arrivals.map (·.action 1))
    (∀ m ∈ ms, m.Unhindered) ∧
      ms.map (fun m => m.io.filterMap Io.packet?) =
        [[.puback 1], [.pubrec 1], [.pubrel 1], [.pubrec 1], [.pubrel 1], [], [], [.pubcomp 1],
          [.pubcomp 1]] ∧
      ms.map (fun m => m.events.filterMap Event.message?) =
        [[⟨1, "b", .atLeastOnce, false, false, .empty⟩], [], [], [], [], [], [],
          [⟨1, "c", .exactlyOnce, false, false, .empty⟩], []] := by
  intro as packets arrivals ms
  have hfault : ∀ a ∈ arrivals, a.fault = none := by
    intro a ha
    obtain ⟨packet, -, rfl⟩ := List.mem_map.mp ha
    rfl
  have hm : ∀ m ∈ ms, m.Unhindered := unhindered_of_transport rfl rfl arrivals hfault
  obtain ⟨hpackets, -, hmessages, -⟩ := answered_in_order {} as arrivals rfl hm
  refine ⟨hm, hpackets.trans ?_, hmessages.trans ?_⟩
  · simp only [as, arrivals, packets]
    decide +kernel
  · simp only [as, arrivals, packets]
    decide +kernel

end Session
end Mqtt
