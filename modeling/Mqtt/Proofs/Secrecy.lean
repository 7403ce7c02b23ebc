import Mqtt.Proofs.Moves
import Mqtt.Proofs.Veil

/-!
# Secrets stay out of the log

Every operation works on veiled sessions as it does on sessions. So two runs that differ in secrets
alone go on side by side, with replies that differ in secrets alone; and since the entries that they
leave cannot be told apart by their lines, they log the same, at every level.
-/

namespace Mqtt

def Session.veil (s : Session) : Session :=
  { s with options := s.options.veil, inflight := s.inflight.veil }

@[simp] theorem Session.snapshot_veil (s : Session) : s.veil.snapshot = s.snapshot := by
  simp [snapshot, veil]

theorem Session.veil_new (o : ConnectOptions) : (new o).veil = new o.veil := by
  simp only [new, veil, Inflight.veil_empty]
  rfl

def Turn.veil (t : Turn) : Turn where
  session := t.session.veil
  fault := t.fault
  events := t.events.map Event.veil
  io := t.io.map Io.veil
  log := t.log.map Entry.veil

def Reply.veil {α : Type} (r : Reply α) : Reply α := ⟨r.result, r.turn.veil⟩

theorem Reply.veil_andThen {α β : Type} {r : Reply α} {next next' : α → Turn → Reply β}
    (h : ∀ a t, (next a t).veil = next' a t.veil) :
    (r.andThen next).veil = r.veil.andThen next' := by
  obtain ⟨result, t⟩ := r
  cases result with
  | ok a => exact h a t
  | error _ => rfl

theorem Reply.veil_summarize {α : Type} (r : Reply α) (note : Except Error α → SessionNote) :
    (r.summarize note).veil = r.veil.summarize note := by
  simp [summarize, veil, Turn.veil, Turn.record, Turn.note, Entry.veil]
  rfl

namespace Turn

variable (t : Turn)

/-! ### Parts of operations -/

theorem veil_record (e : Entry) : (t.record e).veil = t.veil.record e.veil := by
  simp [record, veil]

theorem veil_note (n : SessionNote) : (t.note n).veil = t.veil.note n := t.veil_record _

theorem veil_emit (e : Event) : (t.emit e).veil = t.veil.emit e.veil := by
  simp [emit, veil]

theorem veil_discard (transport : TransportId) :
    (t.discard transport).veil = t.veil.discard transport := by
  simp [discard, veil, Io.veil]

theorem veil_setStatus (next : Status) : (t.setStatus next).veil = t.veil.setStatus next := by
  simp [setStatus, note, record, veil, Session.veil, Entry.veil]

theorem veil_setInflight (f : Inflight) : (t.setInflight f).veil = t.veil.setInflight f.veil := rfl

theorem veil_release (id : UInt16) : (t.release id).veil = t.veil.release id := rfl

theorem veil_resetKeepAlive : t.resetKeepAlive.veil = t.veil.resetKeepAlive := rfl

theorem veil_closeTransport : t.closeTransport.veil = t.veil.closeTransport := by
  have h' : t.veil.session.transport = t.session.transport := rfl
  unfold closeTransport
  rw [h']
  cases t.session.transport with
  | none => rfl
  | some transport =>
    simp [note, record, discard, veil, Session.veil, Entry.veil, Io.veil]

theorem veil_dropHeldIfClean : t.dropHeldIfClean.veil = t.veil.dropHeldIfClean := by
  have h' : t.veil.session.options.cleanSession = t.session.options.cleanSession := rfl
  unfold dropHeldIfClean
  rw [h']
  split
  · rw [veil_setInflight, Inflight.veil_dropHeld]
    rfl
  · rfl

theorem veil_abandonPending : t.abandonPending.veil = t.veil.abandonPending := by
  have h' : t.veil.session.inflight.abandon =
      (t.session.inflight.abandon.1.map Abandoned.veil, t.session.inflight.abandon.2.veil) :=
    t.session.inflight.abandon_veil
  unfold abandonPending
  rw [h']
  dsimp only
  rw [veil_dropHeldIfClean, List.isEmpty_map, List.length_map]
  have hevent : Event.veil ∘ .operationAbandoned = .operationAbandoned ∘ Abandoned.veil := rfl
  split
  · simp [veil, Session.veil, hevent]
  · simp [note, record, veil, Session.veil, hevent, Entry.veil]

theorem veil_teardown : t.teardown.veil = t.veil.teardown := by
  simp only [teardown, veil_abandonPending, veil_resetKeepAlive, veil_setStatus,
    veil_closeTransport]

theorem veil_endConnection (reason : Error) :
    (t.endConnection reason).veil = t.veil.endConnection reason := by
  have hs : t.veil.session.status = t.session.status := rfl
  simp only [endConnection, veil_emit, veil_teardown, hs]
  split <;> rfl

theorem veil_write (p : Packet) : (t.write p).veil = t.veil.write p.veil := by
  have ht : t.veil.session.transport = t.session.transport := rfl
  unfold write
  rw [ht, Packet.kind_veil]
  cases t.session.transport with
  | none =>
    simp only [fail, Reply.veil, veil_note]
  | some transport =>
    cases h : t.fault with
    | none => simp [record, h, done, Reply.veil, veil, Session.veil, Entry.veil, Io.veil]
    | some e => simp [record, h, fail, Reply.veil, veil, Session.veil, Entry.veil, Io.veil]

theorem veil_send (p : Packet) : (t.send p).veil = t.veil.send p.veil := by
  have hw := t.veil_write p
  unfold send
  rw [← hw]
  obtain ⟨result, u⟩ := t.write p
  cases result with
  | ok _ => rfl
  | error e => simp only [fail, Reply.veil, veil_endConnection, veil_note, Packet.kind_veil]

/-! ### Received packets -/

theorem veil_onConnack (connack : Connack) :
    (t.onConnack connack).veil = t.veil.onConnack connack := by
  have hs : (t.veil.note (.processing .connack)).session.status =
      (t.note (.processing .connack)).session.status := rfl
  unfold onConnack
  dsimp only
  rw [hs]
  split
  · simp only [veil_note]
  · split
    · simp only [veil_emit, veil_setStatus, veil_note]
      rfl
    · simp only [veil_emit, veil_resetKeepAlive, veil_setStatus, veil_closeTransport, veil_note]
      rfl

theorem veil_holdMessage (p : Publish) : (t.holdMessage p).veil = t.veil.holdMessage p.veil := by
  have hh : t.veil.session.inflight.hold p.veil = (t.session.inflight.hold p).map Inflight.veil :=
    t.session.inflight.hold_veil p
  unfold holdMessage
  rw [hh]
  cases t.session.inflight.hold p with
  | none => exact t.veil_note _
  | some f => exact t.veil_setInflight f

theorem veil_onPublish (p : Publish) : (t.onPublish p).veil = t.veil.onPublish p.veil := by
  have hq : p.veil.qos = p.qos := rfl
  unfold onPublish
  rw [hq]
  cases p.qos with
  | atMostOnce => simp only [done, Reply.veil, veil_emit]; rfl
  | atLeastOnce =>
    dsimp only
    rw [Reply.veil_andThen fun _ u => ?_, veil_send]
    · rfl
    · simp only [done, Reply.veil, veil_emit]
      rfl
  | exactlyOnce =>
    dsimp only
    rw [veil_send, veil_holdMessage]
    rfl

theorem veil_complete (kind : PacketKind) (id : UInt16) (after : Option Inflight) (event : Event) :
    (t.complete kind id after event).veil =
      t.veil.complete kind id (after.map Inflight.veil) event.veil := by
  cases after with
  | none => exact t.veil_note _
  | some f => simp only [complete, veil_emit, veil_release, veil_setInflight, Option.map_some]

theorem veil_onPubrec (id : UInt16) : (t.onPubrec id).veil = t.veil.onPubrec id := by
  have hr : t.veil.session.inflight.onPubrec id =
      (t.session.inflight.onPubrec id).map Inflight.veil := t.session.inflight.onPubrec_veil id
  unfold onPubrec
  rw [hr]
  cases t.session.inflight.onPubrec id with
  | none => simp only [done, Reply.veil, veil_note, Option.map_none]
  | some f =>
    dsimp only [Option.map_some]
    rw [veil_send, veil_setInflight]
    rfl

theorem veil_deliverHeld (id : UInt16) : (t.deliverHeld id).veil = t.veil.deliverHeld id := by
  have hr := t.session.inflight.unhold_veil id
  change t.veil.session.inflight.unhold id = _ at hr
  unfold deliverHeld
  rw [hr]
  cases t.session.inflight.unhold id with
  | none => exact t.veil_note _
  | some held => simp only [veil_emit, veil_setInflight, Option.map_some]; rfl

theorem veil_onPubrel (id : UInt16) : (t.onPubrel id).veil = t.veil.onPubrel id := by
  unfold onPubrel
  rw [Reply.veil_andThen fun _ u => ?_, veil_send]
  · rfl
  · simp only [done, Reply.veil, veil_deliverHeld]

theorem veil_whileConnected (kind : PacketKind) {next next' : Turn → Reply Unit}
    (h : ∀ u, (next u).veil = next' u.veil) :
    (t.whileConnected kind next).veil = t.veil.whileConnected kind next' := by
  have hs : (t.veil.note (.processing kind)).session.status =
      (t.note (.processing kind)).session.status := rfl
  unfold whileConnected
  dsimp only
  rw [hs]
  split
  · rw [h, veil_note]
  · simp only [done, Reply.veil, veil_note]

theorem veil_receive (p : Packet) : (t.receive p).veil = t.veil.receive p.veil := by
  have hr : (t.record (.packet "Received packet: " p)).veil =
      t.veil.record (.packet "Received packet: " p.veil) := t.veil_record _
  -- Acknowledgements are taken in alike; only what they look for differs.
  have hcomplete : ∀ (u : Turn) (kind : PacketKind) (id : UInt16) {f f' : Option Inflight}
      {event : Event}, event.veil = event → f' = f.map Inflight.veil →
        (u.complete kind id f event).done.veil = (u.veil.complete kind id f' event).done := by
    rintro u kind id f _ event he rfl
    rw [done, Reply.veil, veil_complete, he]
    rfl
  unfold receive
  dsimp only
  rw [← hr]
  generalize t.record (.packet "Received packet: " p) = u
  cases p with
  | connack connack =>
    simp only [done, Reply.veil, veil_onConnack]
    rfl
  | publish p => exact u.veil_whileConnected _ fun v => v.veil_onPublish p
  | puback id =>
    exact u.veil_whileConnected _ fun v =>
      hcomplete v _ _ rfl (v.session.inflight.completePublish_veil id .awaitingAck)
  | pubrec id => exact u.veil_whileConnected _ fun v => v.veil_onPubrec id
  | pubrel id => exact u.veil_whileConnected _ fun v => v.veil_onPubrel id
  | pubcomp id =>
    exact u.veil_whileConnected _ fun v =>
      hcomplete v _ _ rfl (v.session.inflight.completePublish_veil id .awaitingCompletion)
  | suback packet =>
    exact u.veil_whileConnected _ fun v =>
      hcomplete v _ _ rfl (v.session.inflight.onSuback_veil packet.packetId)
  | unsuback id =>
    exact u.veil_whileConnected _ fun v =>
      hcomplete v _ _ rfl (v.session.inflight.onUnsuback_veil id)
  | pingresp =>
    refine u.veil_whileConnected _ fun v => ?_
    simp only [done, Reply.veil, veil_emit]
    rfl
  | connect _ | subscribe _ | unsubscribe _ | pingreq | disconnect =>
    simp only [done, Reply.veil, veil_note]
    rfl

/-! ### Reports -/

theorem veil_chooseClientId (generated : String) :
    (t.chooseClientId generated).veil = t.veil.chooseClientId generated := by
  have hc : (t.veil.session.clientId.isEmpty && t.veil.session.options.generateClientId) =
      (t.session.clientId.isEmpty && t.session.options.generateClientId) := rfl
  unfold chooseClientId
  rw [hc]
  split
  · simp only [veil_note]
    rfl
  · rfl

theorem veil_startConnect (generated : String) :
    (t.startConnect generated).veil = t.veil.startConnect generated := by
  have hs : t.veil.session.status = t.session.status := rfl
  unfold startConnect
  rw [hs]
  split
  · simp only [fail, Reply.veil, veil_note]
  · dsimp only
    rw [← veil_chooseClientId]
    simp only [Reply.veil, veil_setStatus]
    rfl

theorem veil_onStaleReport (attempt : Nat) (report : Report) :
    (t.onStaleReport attempt report).veil = t.veil.onStaleReport attempt report.veil := by
  cases report with
  | opened transport =>
    simp only [onStaleReport, fail, Reply.veil, veil_discard, veil_note]
    rfl
  | failed _ | received _ | closed => simp only [onStaleReport, done, Reply.veil, veil_note]; rfl

theorem veil_onOpened (transport : TransportId) :
    (t.onOpened transport).veil = t.veil.onOpened transport := by
  have hs : t.veil.session.status = t.session.status := rfl
  unfold onOpened
  rw [hs]
  split
  · simp only [fail, Reply.veil, veil_discard, veil_note]
  · dsimp only
    rw [← veil_note, ← veil_dropHeldIfClean, veil_send]
    rfl

theorem veil_onFailed (e : Error) : (t.onFailed e).veil = t.veil.onFailed e := by
  have hs : t.veil.session.status = t.session.status := rfl
  unfold onFailed
  rw [hs]
  split
  · exact t.veil_note _
  · simp only [veil_emit, veil_setStatus, veil_note]
    rfl

theorem veil_onClosed : t.onClosed.veil = t.veil.onClosed := by
  have hs : t.veil.session.status = t.session.status := rfl
  unfold onClosed
  rw [hs]
  split
  · exact t.veil_note _
  · rw [veil_endConnection, veil_note]

theorem veil_onReport (report : Report) :
    (t.onReport report).veil = t.veil.onReport report.veil := by
  cases report with
  | opened transport => exact t.veil_onOpened transport
  | failed e =>
    simp only [onReport, done, Reply.veil, veil_onFailed]
    rfl
  | received p => exact t.veil_receive p
  | closed =>
    simp only [onReport, done, Reply.veil, veil_onClosed]
    rfl

theorem veil_report (attempt : Nat) (report : Report) :
    (t.report attempt report).veil = t.veil.report attempt report.veil := by
  have ha : t.veil.session.attempt = t.session.attempt := rfl
  unfold Turn.report
  rw [Reply.veil_summarize, ha]
  split
  · rw [veil_onStaleReport]
  · rw [veil_onReport]

/-! ### Requests -/

theorem veil_requireValid (check : Except Rejection Unit) :
    (t.requireValid check).veil = t.veil.requireValid check := by
  cases check with
  | ok _ => rfl
  | error why =>
    simp only [requireValid, fail, Reply.veil, veil_record]
    rfl

theorem veil_requireConnected (request : String) :
    (t.requireConnected request).veil = t.veil.requireConnected request := by
  have hs : t.veil.session.status = t.session.status := rfl
  unfold requireConnected
  rw [hs]
  split
  · rfl
  · simp only [fail, Reply.veil, veil_note]

theorem veil_acquire : t.acquire.veil = t.veil.acquire := by
  have hi : t.veil.session.ids = t.session.ids := rfl
  unfold acquire
  rw [hi]
  obtain ⟨found, ids⟩ := t.session.ids.acquire
  cases found with
  | some id => rfl
  | none =>
    simp only [fail, Reply.veil, veil_record]
    rfl

theorem veil_trackPublish (p : Publish) :
    (t.trackPublish p).veil = t.veil.trackPublish p.veil := by
  have hq : p.veil.qos = p.qos := rfl
  unfold trackPublish
  rw [hq]
  split
  · rfl
  · rw [veil_setInflight, Inflight.veil_trackPublish]
    rfl

theorem veil_acquired {α : Type} (check : Except Rejection Unit) (name : String)
    {next next' : UInt16 → Turn → Reply α} (h : ∀ id u, (next id u).veil = next' id u.veil) :
    ((t.requireValid check).andThen fun _ t =>
        (t.requireConnected name).andThen fun _ t => t.acquire.andThen next).veil =
      (t.veil.requireValid check).andThen fun _ t =>
        (t.requireConnected name).andThen fun _ t => t.acquire.andThen next' := by
  rw [Reply.veil_andThen fun _ u => ?_, veil_requireValid]
  rw [Reply.veil_andThen fun _ u => ?_, veil_requireConnected]
  rw [Reply.veil_andThen h, veil_acquire]

theorem veil_publish (p : Publish) : (t.publish p).veil = t.veil.publish p.veil := by
  refine t.veil_acquired p.check "publish" fun id u => ?_
  dsimp only
  rw [Reply.veil_andThen fun _ v => ?_, veil_send]
  · rfl
  · simp only [Reply.veil, veil_emit, veil_trackPublish]
    rfl

theorem veil_subscribe (p : Subscribe) : (t.subscribe p).veil = t.veil.subscribe p := by
  refine t.veil_acquired p.check "subscribe" fun id u => ?_
  rw [Reply.veil_andThen fun _ v => ?_, veil_send]
  · rfl
  · rfl

theorem veil_unsubscribe (p : Unsubscribe) : (t.unsubscribe p).veil = t.veil.unsubscribe p := by
  refine t.veil_acquired p.check "unsubscribe" fun id u => ?_
  rw [Reply.veil_andThen fun _ v => ?_, veil_send]
  · rfl
  · rfl

theorem veil_ping : t.ping.veil = t.veil.ping := by
  unfold ping
  rw [Reply.veil_andThen fun _ u => ?_, veil_requireConnected]
  rw [Reply.veil_andThen fun _ v => ?_, veil_send]
  · rfl
  · rfl

theorem veil_sayGoodbye : t.sayGoodbye.veil = t.veil.sayGoodbye := by
  have ht : t.veil.session.transport = t.session.transport := rfl
  have hw : (t.write .disconnect).veil = t.veil.write .disconnect := t.veil_write .disconnect
  unfold sayGoodbye
  rw [ht, ← hw]
  split
  · obtain ⟨result, u⟩ := t.write .disconnect
    cases result with
    | ok _ => rfl
    | error e => exact u.veil_note _
  · rfl

theorem veil_disconnect : t.disconnect.veil = t.veil.disconnect := by
  have hs : t.veil.session.status = t.session.status := rfl
  unfold disconnect
  dsimp only
  rw [hs]
  split
  · simp only [Reply.veil]
    split
    · simp only [veil_emit, veil_teardown, veil_sayGoodbye, veil_setStatus]
      rfl
    · simp only [veil_teardown, veil_sayGoodbye, veil_setStatus]
  · simp only [fail, Reply.veil, veil_note]

theorem veil_request (request : Request) :
    (t.request request).veil = t.veil.request request.veil := by
  unfold Turn.request
  rw [Reply.veil_summarize]
  congr 1
  cases request with
  | publish p => exact t.veil_publish p
  | subscribe p => exact t.veil_subscribe p
  | unsubscribe p => exact t.veil_unsubscribe p
  | ping => exact t.veil_ping
  | disconnect => exact t.veil_disconnect

/-! ### The rest -/

theorem veil_service : t.service.veil = t.veil.service := by
  have hsend : ((t.note .pingDue).send .pingreq).veil = (t.veil.note .pingDue).send .pingreq := by
    rw [veil_send, veil_note]
    rfl
  by_cases hd : t.session.status = .connected ∧ t.session.keepAlive.isDue t.session.now
  · have hd' : t.veil.session.status = .connected ∧
        t.veil.session.keepAlive.isDue t.veil.session.now := hd
    rw [service, if_pos hd, service, if_pos hd', ← hsend]
    obtain ⟨result, u⟩ := (t.note .pingDue).send .pingreq
    cases result with
    | ok _ => rfl
    | error e => simp only [Reply.veil, veil_note]
  · have hd' : ¬(t.veil.session.status = .connected ∧
        t.veil.session.keepAlive.isDue t.veil.session.now) := hd
    rw [service, if_neg hd, service, if_neg hd']
    rfl

theorem veil_nextService : t.nextService.veil = t.veil.nextService := by
  simp only [nextService, Reply.veil, veil_note]
  rfl

end Turn

namespace Session

/-- An operation works on a veiled session as it does on the session. -/
theorem veil_step (s : Session) (input : Input) (now : Int) (fault : Option Error) :
    (s.step input now fault).veil = s.veil.step input.veil now fault := by
  cases input with
  | startConnect generated =>
    exact congrArg (Reply.map Output.attempt) (Turn.veil_startConnect (.start s now none) generated)
  | report attempt report =>
    exact congrArg (Reply.map _) (Turn.veil_report (.start s now fault) attempt report)
  | request request =>
    exact congrArg (Reply.map Output.packetId) (Turn.veil_request (.start s now fault) request)
  | service => exact congrArg (Reply.map _) (Turn.veil_service (.start s now fault))
  | nextService => exact congrArg (Reply.map Output.due) (Turn.veil_nextService (.start s now none))

/-! ### Runs -/

def Action.veil (a : Action) : Action := { a with input := a.input.veil }

def Move.veil (m : Move) : Move := ⟨m.before.veil, m.action.veil⟩

theorem Move.reply_veil (m : Move) : m.veil.reply = m.reply.veil :=
  (m.before.veil_step m.action.input m.action.now m.action.fault).symm

theorem Move.after_veil (m : Move) : m.veil.after = m.after.veil :=
  congrArg (·.turn.session) m.reply_veil

theorem veil_moves (s : Session) (as : List Action) :
    (s.moves as).map Move.veil = s.veil.moves (as.map Action.veil) := by
  induction as generalizing s with
  | nil => rfl
  | cons a as ih =>
    rw [moves_cons, List.map_cons, ih, List.map_cons, moves_cons, ← Move.after_veil]
    rfl

theorem Move.log_veil (m : Move) (limit : Option Level) :
    logLines limit m.veil.reply.turn.log = logLines limit m.reply.turn.log := by
  rw [reply_veil]
  exact logLines_veil limit _

theorem Move.result_veil (m : Move) : m.veil.result = m.result := by
  rw [result, reply_veil]
  rfl

/-- What can be told from a veiled move is the same in runs that differ in secrets alone. -/
theorem moves_alike {α : Type} {s s' : Session} {as as' : List Action} {see veiled : Move → α}
    (hsee : ∀ m, veiled m.veil = see m) (hs : s.veil = s'.veil)
    (has : as.map Action.veil = as'.map Action.veil) :
    (s.moves as).map see = (s'.moves as').map see := by
  have hcomp : veiled ∘ Move.veil = see := funext hsee
  calc (s.moves as).map see
      = ((s.moves as).map Move.veil).map veiled := by rw [List.map_map, hcomp]
    _ = ((s'.moves as').map Move.veil).map veiled := by rw [veil_moves, hs, has, ← veil_moves]
    _ = (s'.moves as').map see := by rw [List.map_map, hcomp]

/-- Runs that differ in user names, passwords and payloads alone log the same, return the same, and
otherwise differ in these alone. -/
theorem secrets_stay_out_of_logs {o o' : ConnectOptions} {as as' : List Action}
    (ho : o.veil = o'.veil) (has : as.map Action.veil = as'.map Action.veil) :
    let ms := (new o).moves as
    let ms' := (new o').moves as'
    (∀ limit, ms.map (fun m => logLines limit m.reply.turn.log) =
        ms'.map fun m => logLines limit m.reply.turn.log) ∧
      ms.map Move.result = ms'.map Move.result ∧
      ms.map (fun m => m.after.veil) = ms'.map (fun m => m.after.veil) ∧
      ms.map (fun m => m.after.snapshot.text) = ms'.map (fun m => m.after.snapshot.text) ∧
      ms.map (fun m => m.events.map Event.veil) = ms'.map (fun m => m.events.map Event.veil) ∧
      ms.map (fun m => m.io.map Io.veil) = ms'.map (fun m => m.io.map Io.veil) ∧
      (∀ p p' : Packet, p.veil = p'.veil → p.text = p'.text ∧ ∀ limit lead,
        (Entry.packet lead p).line? limit = (Entry.packet lead p').line? limit) ∧
      (o.will = o'.will → o.spelled = o'.spelled) := by
  intro ms ms'
  have hnew : (new o).veil = (new o').veil := by rw [veil_new, ho, ← veil_new]
  have alike : ∀ {α : Type} {see : Move → α} (veiled : Move → α), (∀ m, veiled m.veil = see m) →
      ms.map see = ms'.map see := fun _ hsee => moves_alike hsee hnew has
  refine ⟨fun limit => ?logs, ?results, ?states, ?snapshots, ?events, ?writes, ?packets,
    ConnectOptions.spelled_eq_of_veil ho⟩
  case logs =>
    exact alike (fun m => logLines limit m.reply.turn.log) fun m => m.log_veil limit
  case results => exact alike Move.result Move.result_veil
  case states => exact alike Move.after Move.after_veil
  case snapshots =>
    refine alike (fun m => m.after.snapshot.text) fun m => ?_
    rw [Move.after_veil, snapshot_veil]
  case events => exact alike Move.events fun m => congrArg (·.turn.events) m.reply_veil
  case writes => exact alike Move.io fun m => congrArg (·.turn.io) m.reply_veil
  case packets =>
    intro p p' hp
    refine ⟨?_, fun limit lead => ?_⟩
    · rw [← p.text_veil, hp, p'.text_veil]
    · calc (Entry.packet lead p).line? limit
          = (Entry.packet lead p.veil).line? limit := (Entry.line?_veil limit (.packet lead p)).symm
        _ = (Entry.packet lead p'.veil).line? limit := by rw [hp]
        _ = (Entry.packet lead p').line? limit := Entry.line?_veil limit (.packet lead p')

/-- Two users, each with a password and a will of their own, publish a byte each. -/
theorem secrets_stay_out_of_logs_published :
    let options (user : String) (secret : UInt8) : ConnectOptions :=
      { username := some user, password := some ⟨#[secret]⟩
        will := some ⟨"gone", ⟨#[secret]⟩, .atMostOnce, false⟩ }
    let actions (secret : UInt8) : List Action :=
      [⟨.startConnect "", 0, none⟩, ⟨.report 1 (.opened 0), 0, none⟩,
        ⟨.report 1 (.received (.connack ⟨false, .accepted⟩)), 0, none⟩,
        ⟨.request (.publish ⟨0, "a", .exactlyOnce, false, false, ⟨#[secret]⟩⟩), 0, none⟩]
    let ms := (new (options "alice" 1)).moves (actions 1)
    let ms' := (new (options "bob" 2)).moves (actions 2)
    ms.flatMap Move.io ≠ ms'.flatMap Move.io ∧ ∀ limit,
      ms.map (fun m => logLines limit m.reply.turn.log) =
        ms'.map fun m => logLines limit m.reply.turn.log := by
  intro options actions ms ms'
  have hwritten : ms.flatMap Move.io ≠ ms'.flatMap Move.io := by
    simp only [ms, ms', options, actions]
    decide +kernel
  have ho : (options "alice" 1).veil = (options "bob" 2).veil := rfl
  have has : (actions 1).map Action.veil = (actions 2).map Action.veil := rfl
  exact ⟨hwritten, (secrets_stay_out_of_logs ho has).1⟩

end Session
end Mqtt
