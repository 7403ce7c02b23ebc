import Mqtt.Proofs.Callers
import Mqtt.Proofs.ExactlyOnce
import Mqtt.Proofs.Wire

/-!
# What a client hands to its transports

A will is checked when a client is built, and a request before it takes an identifier. So no
transport is ever handed a packet with an illegal topic, an empty list or a will that is too long;
and a packet of a request is the request itself under an identifier that stands for nothing else,
which is the one that the caller is told.
-/

namespace Mqtt

open Session

/-! ### Checks -/

theorem requireTopic_eq_ok_iff (kind : PacketKind) {topic : String} :
    requireTopic kind topic = .ok () ↔ Topic.checkName topic = .ok () := by
  unfold requireTopic
  cases Topic.checkName topic with
  | ok _ => simp
  | error _ => simp

theorem requireFilters_eq_ok_iff {kind : PacketKind} {filters : List String} :
    requireFilters kind filters = .ok () ↔
      ∀ filter ∈ filters, Topic.checkFilter filter = .ok () := by
  induction filters with
  | nil => simp [requireFilters]
  | cons filter filters ih =>
    unfold requireFilters
    rw [List.forall_mem_cons, ← ih]
    cases Topic.checkFilter filter with
    | ok _ => simp
    | error _ => simp

def Will.Proper (w : Will) : Prop := Topic.checkName w.topic = .ok () ∧ w.payload.size ≤ 65535

/-- The fields that requests and wills are checked for are legal. -/
def Packet.Proper : Packet → Prop
  | connect c => ∀ will, c.will = some will → will.Proper
  | publish p => Topic.checkName p.topic = .ok ()
  | subscribe p => p.subscriptions ≠ [] ∧
      ∀ subscription ∈ p.subscriptions, Topic.checkFilter subscription.filter = .ok ()
  | unsubscribe p => p.filters ≠ [] ∧ ∀ filter ∈ p.filters, Topic.checkFilter filter = .ok ()
  | connack _ | puback _ | pubrec _ | pubrel _ | pubcomp _ | suback _ | unsuback _ | pingreq
  | pingresp | disconnect => True

theorem Will.check_eq_ok_iff {w : Will} : w.check = .ok () ↔ w.Proper := by
  unfold check Proper
  rw [← requireTopic_eq_ok_iff .connect]
  cases requireTopic .connect w.topic with
  | ok _ =>
    by_cases hlong : Topic.maxFieldBytes < w.payload.size
    · have hnot : ¬w.payload.size ≤ 65535 := Nat.not_le.mpr hlong
      simp [hlong, hnot]
    · have hle : w.payload.size ≤ 65535 := Nat.not_lt.mp hlong
      simp [hlong, hle]
  | error _ => simp

theorem Client.build_eq_ok {options : ClientOptions} {c : Client}
    (h : (build options).1 = .ok c) :
    c = new options ∧ ∀ will, options.connect.will = some will → will.Proper := by
  unfold build at h
  split at h
  · cases h
  · cases hw : options.connect.will with
    | none =>
      rw [hw] at h
      cases h
      exact ⟨rfl, nofun⟩
    | some will =>
      cases hc : will.check with
      | error _ =>
        simp only [hw, Option.elim_some, hc] at h
        cases h
      | ok _ =>
        simp only [hw, Option.elim_some, hc] at h
        cases h
        refine ⟨rfl, fun will' hw' => ?_⟩
        cases hw'
        exact Will.check_eq_ok_iff.mp hc

/-- The packet that a request becomes; some take an identifier. -/
def Request.packet : Request → UInt16 → Packet
  | publish p, id => .publish { p with packetId := id }
  | subscribe p, id => .subscribe { p with packetId := id }
  | unsubscribe p, id => .unsubscribe { p with packetId := id }
  | ping, _ => .pingreq
  | disconnect, _ => .disconnect

theorem Request.proper_packet {q : Request} (h : q.check = .ok ()) (id : UInt16) :
    (q.packet id).Proper := by
  cases q with
  | publish p => exact (requireTopic_eq_ok_iff .publish).mp h
  | subscribe p =>
    simp only [check, Subscribe.check] at h
    split at h
    · cases h
    · next hne =>
      refine ⟨fun hnil => hne (List.isEmpty_iff.mpr hnil), fun subscription hin => ?_⟩
      exact requireFilters_eq_ok_iff.mp h _ (List.mem_map_of_mem hin)
  | unsubscribe p =>
    simp only [check, Unsubscribe.check] at h
    split at h
    · cases h
    · next hne =>
      exact ⟨fun hnil => hne (List.isEmpty_iff.mpr hnil), requireFilters_eq_ok_iff.mp h⟩
  | ping | disconnect => trivial

/-- The identifier under which a packet asks for an answer to a request. -/
def Packet.requestId? : Packet → Option UInt16
  | publish p => some p.packetId
  | subscribe p => some p.packetId
  | unsubscribe p => some p.packetId
  | connect _ | connack _ | puback _ | pubrec _ | pubrel _ | pubcomp _ | suback _ | unsuback _
  | pingreq | pingresp | disconnect => none

namespace Session

variable {s u v : Session} {input : Input} {packet : Packet} {events : List Event} {output : Output}

theorem Writes.of_requestId? (h : Writes s input packet u v events output) {id : UInt16}
    (hid : packet.requestId? = some id) :
    ∃ q, input = .request q ∧ q.takesId ∧ q.check = .ok () ∧ packet = q.packet id ∧
      (∃ ids, s.ids.acquire = (some id, ids)) ∧ output = .packetId (some id) := by
  cases h with
  | publishOnce p a ids hc _ ha _ =>
    cases hid
    exact ⟨.publish p, rfl, rfl, hc, rfl, ⟨ids, ha⟩, rfl⟩
  | publish p a ids hc _ ha _ =>
    cases hid
    exact ⟨.publish p, rfl, rfl, hc, rfl, ⟨ids, ha⟩, rfl⟩
  | subscribe p a ids hc _ ha =>
    cases hid
    exact ⟨.subscribe p, rfl, rfl, hc, rfl, ⟨ids, ha⟩, rfl⟩
  | unsubscribe p a ids hc _ ha =>
    cases hid
    exact ⟨.unsubscribe p, rfl, rfl, hc, rfl, ⟨ids, ha⟩, rfl⟩
  | connect _ _ | puback _ _ _ | pubrec _ _ _ _ _ | pubrel _ _ _ _ | pubcompOnly _ _ _
  | pubcomp _ _ _ _ _ | ping _ | keepAlive _ _ => cases hid

theorem Writes.proper (h : Writes s input packet u v events output)
    (hw : ∀ will, s.options.will = some will → will.Proper) : packet.Proper := by
  cases hid : packet.requestId? with
  | some id =>
    obtain ⟨q, -, -, hc, rfl, -⟩ := h.of_requestId? hid
    exact Request.proper_packet hc id
  | none =>
    cases h with
    | connect _ _ => exact hw
    | puback _ _ _ | pubrec _ _ _ _ _ | pubrel _ _ _ _ | pubcompOnly _ _ _ | pubcomp _ _ _ _ _
    | ping _ | keepAlive _ _ => trivial
    | publishOnce _ _ _ _ _ _ _ | publish _ _ _ _ _ _ _ | subscribe _ _ _ _ _ _
    | unsubscribe _ _ _ _ _ _ => cases hid

namespace Move

variable {m : Move} {x : Io}

theorem proper_of_attempted (hx : x ∈ m.io) (ha : x.attempted? = some packet)
    (hw : ∀ will, m.before.options.will = some will → will.Proper) : packet.Proper := by
  rcases m.transition.attempted hx ha with ⟨u, v, events, output, h, -⟩ | rfl
  · exact h.proper hw
  · trivial

/-- A packet of a request is the request under an identifier of its own, which the caller is
told. -/
theorem of_requestId? (hm : Bookkeeping m.before) (hx : x ∈ m.io)
    (ha : x.attempted? = some packet) {id : UInt16} (hid : packet.requestId? = some id) :
    id ≠ 0 ∧ m.before.inflight.operation? id = none ∧
      ∃ q, m.action.input = .request q ∧ packet = q.packet id ∧
        (x.packet? = some packet → m.answer? = some (q, .ok (.packetId id))) := by
  rcases m.transition.attempted hx ha with ⟨u, v, events, output, h, -, hr⟩ | rfl
  · obtain ⟨q, hq, ht, -, hp, ⟨ids, hids⟩, rfl⟩ := h.of_requestId? hid
    obtain ⟨hnone, hz, -⟩ := (hm.atTime m.action.now).acquire hids
    refine ⟨hz, hnone, q, hq, hp, fun htaken => ?_⟩
    have hresult : m.result = .ok (.packetId (some id)) := hr htaken
    simp only [answer?, hq, hresult, Request.told, ht, if_true]
    rfl
  · cases hid

end Move

end Session

/-- Whatever happens around a client that was built, its transports are handed proper packets only.
A packet of a request is the request under an identifier that no pending operation has, and if the
packet is taken, then that identifier is what the caller is told. -/
theorem Client.only_proper_requests_written {options : ClientOptions} {c : Client}
    (hc : (build options).1 = .ok c) (os : List Occasion) :
    ∃ as, let ms := (Session.new options.connect).moves as
      (c.run os).session = (Session.new options.connect).run as ∧
      (c.deeds os).flatMap (·.round.io) = ms.flatMap Move.io ∧
      (c.deeds os).flatMap Deed.answers = ms.filterMap Move.answer? ∧
      ∀ m ∈ ms, ∀ x ∈ m.io, ∀ packet, x.attempted? = some packet →
        packet.Proper ∧ ∀ id, packet.requestId? = some id →
          (1 ≤ id.toNat ∧ id.toNat ≤ 65535) ∧
          (∀ operation ∈ m.before.inflight.pending, operation.packetId ≠ id) ∧
          ∃ q, m.action.input = .request q ∧ packet = q.packet id ∧
            (x.packet? = some packet → m.answer? = some (q, .ok (.packetId id))) := by
  obtain ⟨rfl, hwill⟩ := build_eq_ok hc
  obtain ⟨as, hsession, hio, hanswers⟩ := (new options).exists_asked os
  refine ⟨as, hsession, hio, hanswers, ?_⟩
  intro m hm x hx packet ha
  obtain ⟨earlier, later, happend⟩ := List.append_of_mem hm
  obtain ⟨bs, cs, -, hbefore, -⟩ := later_eq_moves happend
  have hb : Bookkeeping m.before := by
    rw [hbefore]
    exact bookkeeping_run options.connect bs
  have hoptions : m.before.options = options.connect := by
    rw [hbefore]
    exact options_run options.connect bs
  refine ⟨m.proper_of_attempted hx ha (hoptions ▸ hwill), fun id hid => ?_⟩
  obtain ⟨hz, hnone, hq⟩ := m.of_requestId? hb hx ha hid
  refine ⟨?_, ?_, hq⟩
  · have hn : id.toNat ≠ 0 := fun hn => hz (UInt16.toNat_inj.mp hn)
    have hlt := id.toNat_lt
    omega
  · rintro operation hin rfl
    have ho := (hb.orderly.mem_pending_iff operation).mp hin
    rw [hnone] at ho
    cases ho

/-- A client with a will, up to its CONNECT. -/
theorem Client.only_proper_requests_written_connect :
    let will : Will := ⟨"gone", ⟨#[1]⟩, .atMostOnce, false⟩
    let options : ClientOptions := { host := "broker", connect := { will := some will } }
    let env : Env := ⟨0, "", fun _ => none⟩
    let os : List Occasion := [⟨.beginConnect, env⟩, ⟨.finishConnect 1 (.ok 0), env⟩]
    let packet : Packet := .connect (options.connect.connectPacket "")
    (build options).1 = .ok (new options) ∧
      ((new options).deeds os).flatMap (·.round.io) = [.wrote 0 packet] ∧ packet.Proper := by
  intro will options env os packet
  have hbuild : (build options).1 = .ok (new options) := by
    have hcheck : will.check = .ok () := by
      simp only [will]
      decide +kernel
    simp only [build, options, Option.elim_some, hcheck]
    rfl
  have hio : ((new options).deeds os).flatMap (·.round.io) = [.wrote 0 packet] := by
    simp only [options, will, env, os, packet]
    decide +kernel
  refine ⟨hbuild, hio, ?_⟩
  obtain ⟨as, -, hmoves, -, hall⟩ := only_proper_requests_written hbuild os
  have hin : .wrote 0 packet ∈ ((Session.new options.connect).moves as).flatMap Move.io := by
    rw [← hmoves, hio]
    exact List.mem_singleton_self _
  obtain ⟨m, hm, hx⟩ := List.mem_flatMap.mp hin
  exact (hall m hm _ hx packet rfl).1

end Mqtt
