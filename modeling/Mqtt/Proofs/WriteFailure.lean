import Mqtt.Proofs.Outbound

/-!
# Writes that fail

An operation writes from one of twelve places, after more or less has been prepared. A write that
fails ends the connection in the same way from each of them: what was pending before is given up,
what was only prepared is not spoken of, and a message that has come in is held as if it had been
answered.
-/

namespace Mqtt.Session

/-! ### The places that write -/

section Rules

variable {s u u' v v' : Session} {fault : Option Error} {input : Input} {packet packet' : Packet}
  {events events' : List Event} {output output' : Output} {y : Yield}

theorem Writes.of_request {q : Request} (h : Writes s (.request q) packet u v events output) :
    q.check = .ok () ∧ s.status = .connected := by
  cases h with
  | publishOnce _ _ _ hc hs _ _ | publish _ _ _ hc hs _ _ | subscribe _ _ _ hc hs _
  | unsubscribe _ _ _ hc hs _ => exact ⟨hc, hs⟩
  | ping hs => exact ⟨rfl, hs⟩

theorem Writes.not_idle (h : Writes s input packet u v events output)
    (result : Except Error Output) : ¬Idle s input result := by
  intro hi
  cases hi with
  | staleReport _ _ ha hr =>
    cases h with
    | connect transport _ => exact hr transport rfl
    | _ => exact ha rfl
  | outOfPlace _ _ hs => cases h <;> contradiction
  | neverFromServer _ hp | nothingPending _ _ hp _ => cases h <;> cases hp
  | nothingToRelease _ _ hr =>
    cases h with
    | pubrel _ _ _ hr' => simp [hr] at hr'
  | rejected _ _ hc => simp [h.of_request.1] at hc
  | notConnected _ _ _ hs => exact hs h.of_request.2
  | notDue hd =>
    cases h with
    | keepAlive hs hd' => exact hd ⟨hs, hd'⟩
  | connectNotAllowed _ _ | failedLate _ _ | closedLate _ | connackLate _ _
  | nothingToDisconnect _ _ | nextService => cases h

theorem Writes.unique (h : Writes s input packet u v events output)
    (h' : Writes s input packet' u' v' events' output') : packet' = packet ∧ u' = u := by
  have hacquired : ∀ {id id' : UInt16} {ids ids' : PacketIds}, s.ids.acquire = (some id, ids) →
      s.ids.acquire = (some id', ids') → id' = id ∧ ids' = ids := by
    intro id id' ids ids' ha ha'
    rw [ha] at ha'
    cases ha'
    exact ⟨rfl, rfl⟩
  cases h with
  | connect _ _ | ping _ | keepAlive _ _ =>
    cases h'
    exact ⟨rfl, rfl⟩
  | puback _ _ hq =>
    cases h' with
    | puback _ _ _ => exact ⟨rfl, rfl⟩
    | pubrec _ _ hq' _ _ => simp [hq] at hq'
  | pubrec _ _ hq _ hu =>
    cases h' with
    | puback _ _ hq' => simp [hq] at hq'
    | pubrec _ _ _ _ hu' => exact ⟨rfl, hu'.trans hu.symm⟩
  | pubrel _ _ _ hr =>
    cases h' with
    | pubrel _ _ _ hr' =>
      rw [hr] at hr'
      cases hr'
      exact ⟨rfl, rfl⟩
  | pubcompOnly _ _ _ | pubcomp _ _ _ _ _ => cases h' <;> exact ⟨rfl, rfl⟩
  | publishOnce _ _ _ _ _ ha _ | publish _ _ _ _ _ ha _ =>
    cases h' with
    | publishOnce _ _ _ _ _ ha' _ | publish _ _ _ _ _ ha' _ =>
      obtain ⟨rfl, rfl⟩ := hacquired ha ha'
      exact ⟨rfl, rfl⟩
  | subscribe _ _ _ _ _ ha =>
    cases h' with
    | subscribe _ _ _ _ _ ha' =>
      obtain ⟨rfl, rfl⟩ := hacquired ha ha'
      exact ⟨rfl, rfl⟩
  | unsubscribe _ _ _ _ _ ha =>
    cases h' with
    | unsubscribe _ _ _ _ _ ha' =>
      obtain ⟨rfl, rfl⟩ := hacquired ha ha'
      exact ⟨rfl, rfl⟩

theorem Transition.of_writes (h : Transition s fault input y)
    (hw : Writes s input packet u v events output) :
    (∃ transport, fault = none ∧ y.io = [.wrote transport packet]) ∨
      ∃ e, u.writeError fault = some e ∧
        y = ⟨.error e, u.ended, u.farewell e, u.lastWords packet⟩ := by
  cases h with
  | idle hi => exact absurd hi (hw.not_idle _)
  | wrote hw' _ hf =>
    obtain ⟨rfl, rfl⟩ := hw.unique hw'
    exact .inl ⟨_, hf, rfl⟩
  | writeFailed hw' he =>
    obtain ⟨rfl, rfl⟩ := hw.unique hw'
    exact .inr ⟨_, he, rfl⟩
  | discarded _ _ hne =>
    cases hw with
    | connect _ hs => simp [hs] at hne
  | delivered _ _ hq =>
    cases hw with
    | puback _ _ hq' | pubrec _ _ hq' _ _ => simp [hq] at hq'
  | completed _ _ _ _ _ hp _ => cases hw <;> cases hp
  | exhausted _ _ _ hr _ ha =>
    cases hw with
    | publishOnce _ _ _ _ _ ha' _ | publish _ _ _ _ _ ha' _ | subscribe _ _ _ _ _ ha'
    | unsubscribe _ _ _ _ _ ha' => simp [ha] at ha'
    | ping _ => cases hr
  | began _ _ _ _ | failed _ _ | closed _ | accepted _ _ _ | refused _ _ _ | ponged _
  | disconnected _ => cases hw

theorem Transition.of_refused {transport : TransportId} (h : Transition s fault input y)
    (hx : .refused transport packet ∈ y.io) (hp : packet ≠ .disconnect) :
    ∃ u v events output e, Writes s input packet u v events output ∧
      u.transport = some transport ∧ fault = some e ∧
      y = ⟨.error e, u.ended, u.farewell e, u.lastWords packet⟩ := by
  rcases h.attempted hx rfl with ⟨u, v, events, output, hw, ht, -⟩ | hd
  · refine ⟨u, v, events, output, ?_⟩
    rcases h.of_writes hw with ⟨_, -, hio⟩ | ⟨e, he, hy⟩
    · rw [hio] at hx
      cases List.mem_singleton.mp hx
    · rw [writeError, ht] at he
      exact ⟨e, hw, ht, he, hy⟩
  · exact absurd hd hp

end Rules

/-! ### What a failed write leaves -/

structure Move.CutOff (m : Move) (t : TransportId) (packet : Packet) (e : Error) : Prop where
  result : m.result = .error e
  io : m.io = [.refused t packet, .closed t]
  status : m.after.status = .disconnected
  transport : m.after.transport = none
  isBound : ∀ id, m.after.ids.isBound id = false
  pendingCount : m.after.inflight.pendingCount = 0
  lastWrite : m.after.keepAlive.lastWrite = none
  nextPing : m.after.keepAlive.nextPing = none
  /-- What was pending before is given up, in order, and the end of the connection is told last. -/
  events : ∃ (operations : List Abandoned) (last : Event),
    m.events = operations.map .operationAbandoned ++ [last] ∧
    operations.Pairwise (fun a b => a.packetId < b.packetId) ∧
    (∀ operation, operation ∈ operations ↔ operation ∈ m.before.inflight.pending) ∧
    (∀ operation ∈ operations, packet.requestId? ≠ some operation.packetId) ∧
    (m.before.status = .connecting ∧ m.action.input = .report m.before.attempt (.opened t) ∧
        last = .connectionFailure e ∨
      m.before.status = .connected ∧ m.before.transport = some t ∧ last = .connectionClosed)
  /-- Held messages are cleared, or kept together with the one that has come in. -/
  held : ∀ id : UInt16, m.after.inflight.held[id]? =
    if m.before.options.cleanSession then none
    else m.before.inflight.held[id]?.or (m.offered? id)

/-- From whichever place a packet is written: if the transport refuses it, the connection ends in
the one way there is. -/
theorem Move.cutOff {m : Move} {packet : Packet} {u v : Session} {events : List Event}
    {output : Output} {transport : TransportId} {e : Error} (hm : Bookkeeping m.before)
    (hw : Writes m.start m.action.input packet u v events output)
    (ht : u.transport = some transport)
    (hy : Yield.mk m.result m.after m.events m.io =
      ⟨.error e, u.ended, u.farewell e, u.lastWords packet⟩) :
    m.CutOff transport packet e := by
  obtain ⟨hr, ha, hevents, hio⟩ := Yield.mk.inj hy
  obtain ⟨⟨hoptions, hstatus, -⟩, -⟩ := hw.frame
  have hstart : Bookkeeping m.start := hm.atTime _
  obtain ⟨horderly, hsame⟩ := hw.pending_eq hstart
  refine ⟨hr, ?io, ?status, ?transport, ?isBound, ?pendingCount, ?lastWrite, ?nextPing, ?events,
    ?held⟩
  case io => rw [hio, lastWords, closing, ht]; rfl
  case status => rw [ha]; rfl
  case transport => rw [ha]; rfl
  case isBound => rw [ha]; exact PacketIds.isBound_releaseAll u.ids
  case pendingCount => rw [ha]; exact u.pendingCount_remains
  case lastWrite => rw [ha]; rfl
  case nextPing => rw [ha]; exact u.keepAlive.nextPing_reset
  case events =>
    have hmem : ∀ operation, operation ∈ u.inflight.abandon.1 ↔
        operation ∈ m.before.inflight.pending := by
      intro operation
      rw [u.inflight.perm_abandon.mem_iff, horderly.mem_pending_iff, hsame]
      exact (hstart.orderly.mem_pending_iff operation).symm
    refine ⟨u.inflight.abandon.1, _, hevents, horderly.pairwise_abandon, hmem, ?_, ?_⟩
    · intro operation hin hid
      obtain ⟨q, -, -, -, -, ⟨ids, hids⟩, -⟩ := hw.of_requestId? hid
      have ho := (hm.orderly.mem_pending_iff operation).mp ((hmem operation).mp hin)
      have hnone : m.before.inflight.operation? operation.packetId = none :=
        (hstart.acquire hids).1
      rw [hnone] at ho
      cases ho
    · rw [hstatus]
      rcases hw.connect_or_talk with ⟨t, hi, hs, -, rfl⟩ | ⟨-, hs, -, hu⟩
      · obtain rfl : t = transport := Option.some.inj ht
        exact .inl ⟨hs, hi, if_pos hs⟩
      · exact .inr ⟨hs, hu.symm.trans ht, if_neg (by simp [hs])⟩
  case held =>
    intro id
    rw [ha]
    have hclean : u.options.cleanSession = m.before.options.cleanSession :=
      congrArg ConnectOptions.cleanSession hoptions
    by_cases hc : m.before.options.cleanSession
    · rw [if_pos hc]
      simp [ended, remains, hclean, hc]
    · rw [if_neg hc, held_ended u (hclean.trans (by simpa using hc))]
      exact hw.held_prepared (fun hclean => absurd hclean hc) id

/-- After every run, an operation whose packet is refused by the transport that it is written to
returns that error, and its connection ends in the same way from all places that write: the
transport is closed once and forgotten, all identifiers are free, nothing is pending, no ping is
due, and the events are those of the operations that were pending before, in strictly ascending
order, and of the end of the connection or attempt. And from all of these places an error of the
transport is met. -/
theorem write_failures_end_alike (o : ConnectOptions) (as : List Action) (a : Action) :
    let m : Move := ⟨(new o).run as, a⟩
    (∀ transport packet, .refused transport packet ∈ m.io → packet ≠ .disconnect →
      ∃ e, a.fault = some e ∧ m.CutOff transport packet e) ∧
    ∀ packet u v events output, Writes m.start a.input packet u v events output →
      ∀ transport e, u.transport = some transport → a.fault = some e →
        .refused transport packet ∈ m.io := by
  intro m
  have hm : Bookkeeping m.before := bookkeeping_run o as
  constructor
  · intro transport packet hx hp
    obtain ⟨u, v, events, output, e, hw, ht, hf, hy⟩ := m.transition.of_refused hx hp
    exact ⟨e, hf, m.cutOff hm hw ht hy⟩
  · intro packet u v events output hw transport e ht hf
    rcases m.transition.of_writes hw with ⟨_, hnone, -⟩ | ⟨_, -, hy⟩
    · have hfault : a.fault = none := hnone
      rw [hf] at hfault
      cases hfault
    · have hio : m.io = u.lastWords packet := congrArg Yield.io hy
      rw [hio, lastWords, ht]
      exact List.mem_cons_self

example :
    (Move.mk ((new {}).run ([.startConnect "", .report 1 (.opened 0),
      .report 1 (.received (.connack ⟨false, .accepted⟩)),
      .request (.subscribe ⟨0, [⟨"a", .atMostOnce⟩]⟩)].map fun input => ⟨input, 0, none⟩))
      ⟨.request (.publish ⟨0, "a", .atLeastOnce, false, false, .empty⟩), 0,
        some (.transport (.text ""))⟩).events =
    [.operationAbandoned (.subscribe 1), .connectionClosed] := by
  decide +kernel

end Mqtt.Session
