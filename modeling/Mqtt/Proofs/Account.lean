import Mqtt.Proofs.Bookkeeping

/-!
# Accounts of operations

A request that is granted an identifier opens an operation under it, and an event that reports the
operation complete or abandoned settles it. `Account` says what one step does to the operation under
one identifier, and every rule keeps to it.
-/

namespace Mqtt.Session

def Output.granted? : Output → Option UInt16
  | packetId id => id
  | attempt _ | done | due _ => none

/-- The operation that waits for an answer once a request has been granted an identifier. -/
def Input.opens? (input : Input) (id : UInt16) : Option Abandoned :=
  match input with
  | .request (.publish packet) =>
    if packet.qos = .atMostOnce then none else some (.publish { packet with packetId := id })
  | .request (.subscribe _) => some (.subscribe id)
  | .request (.unsubscribe _) => some (.unsubscribe id)
  | _ => none

def grantedBy (result : Except Error Output) : Option UInt16 :=
  match result with
  | .ok output => output.granted?
  | .error _ => none

def settling (id : UInt16) (events : List Event) : List Event :=
  events.filter fun e => e.settled? = some id

theorem Input.packetId_opens? {input : Input} {id : UInt16} {operation : Abandoned}
    (h : input.opens? id = some operation) : operation.packetId = id := by
  unfold opens? at h
  split at h
  · split_ifs at h
    cases h
    rfl
  · cases h
    rfl
  · cases h
    rfl
  · cases h

/-- What can happen to the operation under an identifier: it stays, it is settled by an event of its
own kind, or the identifier, which stood for nothing, is granted. The arguments are the operation
before, the settling events, the identifier granted and the operation after. -/
inductive Account (id : UInt16) :
    Option Abandoned → List Event → Option UInt16 → Option Abandoned → Prop
  | kept {operation : Option Abandoned} {g : Option UInt16} (hg : g ≠ some id) :
      Account id operation [] g operation
  | settled {operation : Abandoned} {e : Event} {g : Option UInt16} (hg : g ≠ some id)
      (he : e.Settles operation) : Account id (some operation) [e] g none
  | granted {operation : Option Abandoned} : Account id none [] (some id) operation

namespace Account

variable {id : UInt16} {a b c : Option Abandoned} {events later : List Event} {g : Option UInt16}

theorem trans (h : Account id a events g b) (hg : g ≠ some id) (h' : Account id b later none c) :
    Account id a (events ++ later) none c := by
  cases h with
  | kept _ => exact h'
  | settled _ he =>
    cases h' with
    | kept hn => exact .settled hn he
  | granted => exact absurd rfl hg

theorem eq_some_before {operation : Abandoned} (h : Account id a events g (some operation))
    (hg : g ≠ some id) : a = some operation ∧ events = [] := by
  cases h with
  | kept _ => exact ⟨rfl, rfl⟩
  | granted => exact absurd rfl hg

theorem stays_or_settled {operation : Abandoned} (h : Account id (some operation) events g b) :
    events = [] ∧ b = some operation ∨ ∃ e, events = [e] ∧ e.Settles operation ∧ b = none := by
  cases h with
  | kept _ => exact .inl ⟨rfl, rfl⟩
  | settled _ he => exact .inr ⟨_, rfl, he, rfl⟩

theorem eq_nil (h : Account id none events g b) : events = [] := by
  cases h with
  | kept _ => rfl
  | granted => rfl

theorem eq_none_before (h : Account id a events (some id) b) : a = none := by
  cases h with
  | kept hg => exact absurd rfl hg
  | settled hg _ => exact absurd rfl hg
  | granted => rfl

theorem settles {e : Event} (h : Account id a events g b) (he : e ∈ events) :
    events = [e] ∧ ∃ operation, a = some operation ∧ e.Settles operation := by
  cases h with
  | kept _ => cases he
  | @settled operation _ _ _ hs =>
    cases List.mem_singleton.mp he
    exact ⟨rfl, operation, rfl, hs⟩
  | granted => cases he

end Account

/-! ### One step -/

theorem settling_abandoned {s : Session} (h : s.inflight.Orderly) (id : UInt16) :
    settling id s.abandoned = (s.inflight.operation? id).toList.map .operationAbandoned := by
  rw [← h.filter_abandon, settling, abandoned, List.filter_map]
  simp [Function.comp_def, Event.settled?]

theorem settling_farewell {s : Session} (h : s.inflight.Orderly) (reason : Error) (id : UInt16) :
    settling id (s.farewell reason) =
      (s.inflight.operation? id).toList.map .operationAbandoned := by
  have hlast : settling id [if s.status = .connecting then .connectionFailure reason
      else .connectionClosed] = [] := by
    by_cases hs : s.status = .connecting
    · rw [if_pos hs]
      rfl
    · rw [if_neg hs]
      rfl
  rw [farewell, settling, List.filter_append]
  change settling id s.abandoned ++ settling id _ = _
  rw [hlast, List.append_nil, settling_abandoned h]

theorem Account.of_abandoned {id : UInt16} {before : Option Abandoned} {g : Option UInt16}
    {after : Option Abandoned} (hg : g ≠ some id) (ha : after = none) :
    Account id before (before.toList.map .operationAbandoned) g after := by
  subst ha
  cases before with
  | none => exact .kept hg
  | some operation => exact .settled hg rfl

theorem Writes.pending_eq {s u v : Session} {input : Input} {packet : Packet}
    {events : List Event} {output : Output} (h : Writes s input packet u v events output)
    (hs : Bookkeeping s) :
    u.inflight.Orderly ∧ ∀ id, u.inflight.operation? id = s.inflight.operation? id := by
  have hsame : ∀ held : Std.ExtTreeMap UInt16 Publish compare,
      ({ s.inflight with held := held } : Inflight).Orderly ∧ ∀ id,
        Inflight.operation? { s.inflight with held := held } id = s.inflight.operation? id :=
    fun held => ⟨⟨hs.orderly.packetId_eq, hs.orderly.qos_ne, hs.orderly.phase_iff,
      hs.orderly.not_mem_subscribes, hs.orderly.not_mem_unsubscribes, hs.orderly.disjoint⟩,
      fun _ => rfl⟩
  cases h with
  | connect transport _ =>
    unfold install
    by_cases hc : s.options.cleanSession
    · rw [if_pos hc]
      exact hsame _
    · rw [if_neg hc]
      exact ⟨hs.orderly, fun _ => rfl⟩
  | pubrec message _ _ u hu =>
    subst hu
    unfold Inflight.hold
    split
    · exact ⟨hs.orderly, fun _ => rfl⟩
    · exact hsame _
  | pubrel id f _ hr =>
    obtain ⟨hf, -, ho⟩ := hs.orderly.onPubrec hr
    exact ⟨hf, ho⟩
  | puback _ _ _ | pubcompOnly _ _ _ | pubcomp _ _ _ _ _ | publishOnce _ _ _ _ _ _ _
  | publish _ _ _ _ _ _ _ | subscribe _ _ _ _ _ _ | unsubscribe _ _ _ _ _ _ | ping _
  | keepAlive _ _ => exact ⟨hs.orderly, fun _ => rfl⟩

theorem Account.of_track {id a : UInt16} {f g : Inflight} {operation : Abandoned}
    (hnone : f.operation? a = none)
    (ho : ∀ b, g.operation? b = if b = a then some operation else f.operation? b) :
    Account id (f.operation? id) [] (some a) (g.operation? id) := by
  rw [ho]
  by_cases he : id = a
  · subst he
    rw [if_pos rfl, hnone]
    exact .granted
  · rw [if_neg he]
    exact .kept fun hae => he (Option.some.inj hae).symm

theorem Writes.account {s u v : Session} {input : Input} {packet : Packet}
    {events : List Event} {output : Output} (h : Writes s input packet u v events output)
    (hs : Bookkeeping s) (id : UInt16) :
    Account id (s.inflight.operation? id) (settling id events) output.granted?
        (v.inflight.operation? id) ∧
      (output.granted? = some id → v.inflight.operation? id = input.opens? id) := by
  have hpending := (h.pending_eq hs).2 id
  cases h with
  | connect _ _ | pubrec _ _ _ _ _ | pubrel _ _ _ _ =>
    rw [hpending]
    exact ⟨.kept (by simp [Output.granted?]), fun hg => by simp [Output.granted?] at hg⟩
  | puback _ _ _ | pubcompOnly _ _ _ | ping _ | keepAlive _ _ =>
    exact ⟨.kept (by simp [Output.granted?]), fun hg => by simp [Output.granted?] at hg⟩
  | pubcomp a message f _ hr =>
    unfold Inflight.unhold at hr
    split at hr
    · cases hr
      exact ⟨.kept (by simp [Output.granted?]), fun hg => by simp [Output.granted?] at hg⟩
    · cases hr
  | publishOnce packet a ids _ _ ha hq =>
    obtain ⟨hnone, -⟩ := hs.acquire ha
    constructor
    · by_cases he : id = a
      · subst he
        change Account id (s.inflight.operation? id) [] (some id) (s.inflight.operation? id)
        rw [hnone]
        exact .granted
      · exact .kept fun hae => he (Option.some.inj hae).symm
    · intro hg
      cases hg
      simp only [Input.opens?, hq, if_true]
      exact hnone
  | publish packet a ids _ _ ha hq =>
    obtain ⟨hnone, -⟩ := hs.acquire ha
    have ho := Inflight.operation?_insert s.inflight a
      ⟨{ packet with packetId := a }, .initial packet.qos⟩
    refine ⟨.of_track hnone ho, ?_⟩
    intro hg
    cases hg
    simp only [Input.opens?, hq, if_false]
    exact (ho id).trans (if_pos rfl)
  | subscribe packet a ids _ _ ha =>
    obtain ⟨hnone, -⟩ := hs.acquire ha
    have ho := Inflight.operation?_trackSubscribe hnone
    refine ⟨.of_track hnone ho, ?_⟩
    intro hg
    cases hg
    exact (ho id).trans (if_pos rfl)
  | unsubscribe packet a ids _ _ ha =>
    obtain ⟨hnone, -⟩ := hs.acquire ha
    have ho := Inflight.operation?_trackUnsubscribe hnone
    refine ⟨.of_track hnone ho, ?_⟩
    intro hg
    cases hg
    exact (ho id).trans (if_pos rfl)

theorem Idle.grantedBy_eq_none {s : Session} {input : Input} {result : Except Error Output}
    (h : Idle s input result) : grantedBy result = none := by
  cases h <;> rfl

/-- What any move does to the operation under an identifier. -/
theorem Transition.account {s : Session} {fault : Option Error} {input : Input} {y : Yield}
    (h : Transition s fault input y) (hs : Bookkeeping s) (id : UInt16) :
    Account id (s.inflight.operation? id) (settling id y.events) (grantedBy y.result)
        (y.session.inflight.operation? id) ∧
      (grantedBy y.result = some id → y.session.inflight.operation? id = input.opens? id) := by
  have hnone : s.remains.operation? id = none := Inflight.operation?_empty _ id
  cases h with
  | idle hi =>
    have hg := hi.grantedBy_eq_none
    dsimp only
    rw [hg]
    exact ⟨.kept (by simp), fun hg => by simp at hg⟩
  | wrote hw _ _ => exact hw.account hs id
  | @writeFailed _ _ u _ _ _ e hw _ =>
    -- What is given up is what was pending before the write was prepared, so that an identifier
    -- taken for the write is free again without an event.
    obtain ⟨hu, ho⟩ := hw.pending_eq hs
    refine ⟨?_, fun hg => by cases hg⟩
    rw [settling_farewell hu, ho]
    exact .of_abandoned (by simp [grantedBy]) (Inflight.operation?_empty _ id)
  | closed _ =>
    refine ⟨?_, fun hg => by cases hg⟩
    rw [settling_farewell hs.orderly]
    exact .of_abandoned (by simp [grantedBy, Output.granted?]) hnone
  | disconnected _ =>
    refine ⟨?_, fun hg => by cases hg⟩
    have hlast : settling id (if s.status = .connecting then
        [.connectionFailure .cancelledByDisconnect] else []) = [] := by
      by_cases hst : s.status = .connecting
      · rw [if_pos hst]
        rfl
      · rw [if_neg hst]
        rfl
    have hevents : settling id (s.abandoned ++ (if s.status = .connecting then
        [.connectionFailure .cancelledByDisconnect] else [])) =
        (s.inflight.operation? id).toList.map .operationAbandoned := by
      rw [settling, List.filter_append]
      change settling id s.abandoned ++ settling id _ = _
      rw [hlast, List.append_nil, settling_abandoned hs.orderly]
    dsimp only
    rw [hevents]
    exact .of_abandoned (by simp [grantedBy, Output.granted?]) hnone
  | completed packet a event f _ hp ha =>
    obtain ⟨-, -, he, ⟨operation, hop, hsettles⟩, ho⟩ := hs.orderly.onAck hp ha
    refine ⟨?_, fun hg => by cases hg⟩
    dsimp only
    rw [ho]
    by_cases hid : id = a
    · subst hid
      have hevents : settling id [event] = [event] := by simp [settling, he]
      rw [if_pos rfl, hop, hevents]
      exact .settled (by simp [grantedBy, Output.granted?]) hsettles
    · have hid' : a ≠ id := fun hai => hid hai.symm
      have hevents : settling id [event] = [] := by simp [settling, he, hid']
      rw [if_neg hid, hevents]
      exact .kept (by simp [grantedBy, Output.granted?])
  | exhausted _ _ _ _ _ _ => exact ⟨.kept (by simp [grantedBy]), fun hg => by cases hg⟩
  | discarded _ _ _ => exact ⟨.kept (by simp [grantedBy]), fun hg => by cases hg⟩
  | began _ _ _ _ | failed _ _ | accepted _ _ _ | refused _ _ _ | delivered _ _ _ | ponged _ =>
    exact ⟨.kept (by simp [grantedBy, Output.granted?]), fun hg => by cases hg⟩

/-! ### Publishes -/

theorem Transition.publish_granted {s : Session} {fault : Option Error} {packet : Publish}
    {y : Yield} {id : UInt16} (h : Transition s fault (.request (.publish packet)) y)
    (hg : grantedBy y.result = some id) :
    y.events = [.publishSent id] ∧
      ∃ transport, y.io = [.wrote transport (.publish { packet with packetId := id })] := by
  cases h with
  | idle hi =>
    rw [hi.grantedBy_eq_none] at hg
    cases hg
  | @wrote _ _ _ _ _ _ transport hw _ _ =>
    cases hw with
    | publishOnce _ a _ _ _ _ _ =>
      cases hg
      exact ⟨rfl, transport, rfl⟩
    | publish _ a _ _ _ _ _ =>
      cases hg
      exact ⟨rfl, transport, rfl⟩
  | writeFailed _ _ => cases hg
  | exhausted _ _ _ _ _ _ => cases hg

theorem publishSent_not_mem_abandoned (s : Session) (id : UInt16) :
    Event.publishSent id ∉ s.abandoned := by
  intro he
  obtain ⟨operation, ho⟩ := s.mem_abandoned he
  cases ho

theorem publishSent_not_mem_farewell (s : Session) (reason : Error) (id : UInt16) :
    Event.publishSent id ∉ s.farewell reason := by
  intro he
  rcases List.mem_append.mp he with he | he
  · exact publishSent_not_mem_abandoned s id he
  · rw [List.mem_singleton] at he
    split_ifs at he

theorem Transition.granted_of_publishSent {s : Session} {fault : Option Error} {input : Input}
    {y : Yield} {id : UInt16} (h : Transition s fault input y)
    (he : Event.publishSent id ∈ y.events) :
    grantedBy y.result = some id ∧ ∃ packet, input = .request (.publish packet) := by
  cases h with
  | wrote hw _ _ =>
    cases hw with
    | publishOnce packet a _ _ _ _ _ =>
      cases List.mem_singleton.mp he
      exact ⟨rfl, packet, rfl⟩
    | publish packet a _ _ _ _ _ =>
      cases List.mem_singleton.mp he
      exact ⟨rfl, packet, rfl⟩
    | puback _ _ _ | pubcomp _ _ _ _ _ => cases List.mem_singleton.mp he
    | connect _ _ | pubrec _ _ _ _ _ | pubrel _ _ _ _ | pubcompOnly _ _ _ | subscribe _ _ _ _ _ _
    | unsubscribe _ _ _ _ _ _ | ping _ | keepAlive _ _ => cases he
  | writeFailed _ _ => exact absurd he (publishSent_not_mem_farewell _ _ id)
  | closed _ => exact absurd he (publishSent_not_mem_farewell _ _ id)
  | disconnected _ =>
    rcases List.mem_append.mp he with he | he
    · exact absurd he (publishSent_not_mem_abandoned s id)
    · split_ifs at he
      · cases List.mem_singleton.mp he
      · cases he
  | completed packet a event f _ hp _ =>
    cases List.mem_singleton.mp he
    cases packet <;> simp [Packet.completion] at hp
  | failed _ _ | accepted _ _ _ | refused _ _ _ | delivered _ _ _ | ponged _ =>
    cases List.mem_singleton.mp he
  | idle _ | discarded _ _ _ | began _ _ _ _ | exhausted _ _ _ _ _ _ => cases he

end Mqtt.Session
