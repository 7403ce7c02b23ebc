import Mqtt.Proofs.Transitions

/-!
# Every operation follows a rule

`step_transition` opens the operations of a session once and for all and finds the rule that each of
their branches follows.
-/

namespace Mqtt

theorem Reply.andThen_done (r : Reply Unit) : (r.andThen fun _ t => t.done) = r := by
  obtain ⟨result, t⟩ := r
  cases result with
  | ok _ => rfl
  | error _ => rfl

namespace Session

variable {s : Session} {fault : Option Error}

/-- What follows a write runs only once the packet is taken. -/
theorem Transition.of_send_andThen {α : Type} {u v : Session} {input : Input} {packet : Packet}
    {events : List Event} {output : Output} {out : α → Output} {next : Unit → Turn → Reply α}
    (h : Writes s input packet u v events output) (log : List Entry)
    (hnext : ∀ transport log, (next () ⟨u.written, fault, [], [.wrote transport packet], log⟩).yield
      out = ⟨.ok output, v.written, events, [.wrote transport packet]⟩) :
    Transition s fault input
      (((Turn.send ⟨u, fault, [], [], log⟩ packet).andThen next).yield out) := by
  cases he : u.writeError fault with
  | some e =>
    obtain ⟨log', hsend⟩ := Turn.send_of_unwritable ⟨u, fault, [], [], log⟩ packet he
    rw [hsend]
    exact .writeFailed h he
  | none =>
    cases ht : u.transport with
    | none => simp [writeError, ht] at he
    | some transport =>
      have hf : fault = none := by simpa [writeError, ht] using he
      obtain ⟨log', hsend⟩ := Turn.send_of_writable ⟨u, fault, [], [], log⟩ packet ht hf
      rw [hsend]
      have hy := hnext transport log'
      simp only [Reply.andThen, List.nil_append]
      rw [hy]
      exact .wrote h ht hf

theorem Transition.of_send {u v : Session} {input : Input} {packet : Packet} {output : Output}
    {out : Unit → Output} (h : Writes s input packet u v [] output) (log : List Entry)
    (hv : u = v) (hout : out () = output) :
    Transition s fault input ((Turn.send ⟨u, fault, [], [], log⟩ packet).yield out) := by
  rw [← Reply.andThen_done (Turn.send _ _)]
  apply Transition.of_send_andThen h log
  intro transport log'
  subst hv hout
  rfl

/-! ### Reports -/

theorem onConnack_transition (connack : Connack) (log : List Entry) :
    Transition s fault (.report s.attempt (.received (.connack connack)))
      ((Turn.onConnack ⟨s, fault, [], [], log⟩ connack).done.yield fun _ => .done) := by
  by_cases hs : s.status = .connecting
  · by_cases hc : connack.returnCode.isAccepted
    · simp only [Turn.onConnack, Turn.note, Turn.record, hs, ne_eq, not_true_eq_false, if_false, hc,
        if_true]
      exact .accepted connack hs hc
    · obtain ⟨log', hclose⟩ := Turn.closeTransport_eq (Turn.note (Turn.note
        ⟨s, fault, [], [], log⟩ (.processing .connack)) (.refused connack.returnCode))
      have hne : ¬(Turn.note ⟨s, fault, [], [], log⟩
          (.processing .connack)).session.status ≠ .connecting := fun hne => hne hs
      simp only [Turn.onConnack]
      rw [if_neg hne, if_neg hc, hclose]
      exact .refused connack hs hc
  · have hne : (Turn.note ⟨s, fault, [], [], log⟩
        (.processing .connack)).session.status ≠ .connecting := hs
    simp only [Turn.onConnack]
    rw [if_pos hne]
    exact .idle (.connackLate connack hs)

theorem onPublish_transition (message : Publish) (hs : s.status = .connected) (log : List Entry) :
    Transition s fault (.report s.attempt (.received (.publish message)))
      ((Turn.onPublish ⟨s, fault, [], [], log⟩ message).yield fun _ => .done) := by
  cases hq : message.qos with
  | atMostOnce =>
    simp only [Turn.onPublish, hq]
    exact .delivered message hs hq
  | atLeastOnce =>
    simp only [Turn.onPublish, hq]
    exact .of_send_andThen (.puback message hs hq) log fun _ _ => rfl
  | exactlyOnce =>
    simp only [Turn.onPublish, hq]
    have hw := Writes.pubrec message hs hq _ rfl
    cases hh : s.inflight.hold message with
    | none =>
      rw [hh] at hw
      simp only [Turn.holdMessage, hh]
      exact .of_send hw _ rfl rfl
    | some f =>
      rw [hh] at hw
      simp only [Turn.holdMessage, hh]
      exact .of_send hw _ rfl rfl

theorem complete_transition {packet : Packet} {kind : PacketKind} {id : UInt16} {event : Event}
    (hs : s.status = .connected) (hp : packet.completion = some (id, event)) (log : List Entry) :
    Transition s fault (.report s.attempt (.received packet))
      ((Turn.complete ⟨s, fault, [], [], log⟩ kind id (s.inflight.onAck packet) event).done.yield
        fun _ => .done) := by
  cases ha : s.inflight.onAck packet with
  | none =>
    have hi : packet.completion.isSome := by rw [hp]; rfl
    exact .idle (.nothingPending packet hs hi ha)
  | some f => exact .completed packet id event f hs hp ha

theorem onPubrec_transition (id : UInt16) (hs : s.status = .connected) (log : List Entry) :
    Transition s fault (.report s.attempt (.received (.pubrec id)))
      ((Turn.onPubrec ⟨s, fault, [], [], log⟩ id).yield fun _ => .done) := by
  cases hr : s.inflight.onPubrec id with
  | none =>
    simp only [Turn.onPubrec, hr]
    exact .idle (.nothingToRelease id hs hr)
  | some f =>
    simp only [Turn.onPubrec, hr]
    exact .of_send (.pubrel id f hs hr) log rfl rfl

theorem onPubrel_transition (id : UInt16) (hs : s.status = .connected) (log : List Entry) :
    Transition s fault (.report s.attempt (.received (.pubrel id)))
      ((Turn.onPubrel ⟨s, fault, [], [], log⟩ id).yield fun _ => .done) := by
  cases hr : s.inflight.unhold id with
  | none =>
    apply Transition.of_send_andThen (.pubcompOnly id hs hr) log
    intro transport log'
    simp only [Turn.deliverHeld, written, hr]
    rfl
  | some held =>
    obtain ⟨message, f⟩ := held
    apply Transition.of_send_andThen (.pubcomp id message f hs hr) log
    intro transport log'
    simp only [Turn.deliverHeld, written, hr]
    rfl

theorem whileConnected_transition {packet : Packet} {kind : PacketKind} {next : Turn → Reply Unit}
    {log : List Entry} (hp : packet.needsAcceptance)
    (hnext : s.status = .connected → ∀ log,
      Transition s fault (.report s.attempt (.received packet))
        ((next ⟨s, fault, [], [], log⟩).yield fun _ => .done)) :
    Transition s fault (.report s.attempt (.received packet))
      ((Turn.whileConnected ⟨s, fault, [], [], log⟩ kind next).yield fun _ => .done) := by
  by_cases hs : s.status = .connected
  · simp only [Turn.whileConnected, Turn.note, Turn.record, hs, if_true]
    exact hnext hs _
  · simp only [Turn.whileConnected, Turn.note, Turn.record, hs, if_false]
    exact .idle (.outOfPlace packet hp hs)

theorem receive_transition (packet : Packet) (log : List Entry) :
    Transition s fault (.report s.attempt (.received packet))
      ((Turn.receive ⟨s, fault, [], [], log⟩ packet).yield fun _ => .done) := by
  cases packet with
  | connack connack => exact onConnack_transition connack _
  | publish message => exact whileConnected_transition rfl (onPublish_transition message)
  | puback id => exact whileConnected_transition rfl fun hs => complete_transition hs rfl
  | pubrec id => exact whileConnected_transition rfl (onPubrec_transition id)
  | pubrel id => exact whileConnected_transition rfl (onPubrel_transition id)
  | pubcomp id => exact whileConnected_transition rfl fun hs => complete_transition hs rfl
  | suback packet => exact whileConnected_transition rfl fun hs => complete_transition hs rfl
  | unsuback id => exact whileConnected_transition rfl fun hs => complete_transition hs rfl
  | pingresp => exact whileConnected_transition rfl fun hs _ => .ponged hs
  | connect packet => exact .idle (.neverFromServer (.connect packet) rfl)
  | subscribe packet => exact .idle (.neverFromServer (.subscribe packet) rfl)
  | unsubscribe packet => exact .idle (.neverFromServer (.unsubscribe packet) rfl)
  | pingreq => exact .idle (.neverFromServer .pingreq rfl)
  | disconnect => exact .idle (.neverFromServer .disconnect rfl)

theorem onOpened_transition (transport : TransportId) (log : List Entry) :
    Transition s fault (.report s.attempt (.opened transport))
      ((Turn.onOpened ⟨s, fault, [], [], log⟩ transport).yield fun _ => .done) := by
  by_cases hs : s.status = .connecting
  · have hne : ¬s.status ≠ .connecting := fun hne => hne hs
    have hw := Writes.connect transport hs
    simp only [Turn.onOpened]
    rw [if_neg hne]
    by_cases hc : s.options.cleanSession
    · simp only [install, hc, if_true] at hw
      simp only [Turn.dropHeldIfClean, Turn.note, Turn.record, hc, if_true]
      exact .of_send hw _ rfl rfl
    · simp only [install, hc, Bool.false_eq_true, if_false] at hw
      simp only [Turn.dropHeldIfClean, Turn.note, Turn.record, hc, Bool.false_eq_true, if_false]
      exact .of_send hw _ rfl rfl
  · simp only [Turn.onOpened]
    rw [if_pos hs]
    exact .discarded s.attempt transport (.inr hs)

theorem onFailed_transition (e : Error) (log : List Entry) :
    Transition s fault (.report s.attempt (.failed e))
      ((Turn.onFailed ⟨s, fault, [], [], log⟩ e).done.yield fun _ => .done) := by
  by_cases hs : s.status = .connecting
  · simp only [Turn.onFailed, hs, ne_eq, not_true_eq_false, if_false]
    exact .failed e hs
  · simp only [Turn.onFailed, hs, ne_eq, not_false_eq_true, if_true]
    exact .idle (.failedLate e hs)

theorem onClosed_transition (log : List Entry) :
    Transition s fault (.report s.attempt .closed)
      ((Turn.onClosed ⟨s, fault, [], [], log⟩).done.yield fun _ => .done) := by
  by_cases hs : s.status = .disconnected
  · simp only [Turn.onClosed, hs, if_true]
    exact .idle (.closedLate hs)
  · obtain ⟨log', hend⟩ := Turn.endConnection_eq
      (Turn.note ⟨s, fault, [], [], log⟩ (.closed s.status)) .closedBeforeAccepted
    simp only [Turn.onClosed, hs, if_false]
    rw [hend]
    exact .closed hs

theorem onReport_transition (report : Report) (log : List Entry) :
    Transition s fault (.report s.attempt report)
      ((Turn.onReport ⟨s, fault, [], [], log⟩ report).yield fun _ => .done) := by
  cases report with
  | opened transport => exact onOpened_transition transport log
  | failed e => exact onFailed_transition e log
  | received packet => exact receive_transition packet log
  | closed => exact onClosed_transition log

theorem onStaleReport_transition (attempt : Nat) (report : Report) (ha : attempt ≠ s.attempt)
    (log : List Entry) :
    Transition s fault (.report attempt report)
      ((Turn.onStaleReport ⟨s, fault, [], [], log⟩ attempt report).yield fun _ => .done) := by
  cases report with
  | opened transport => exact .discarded attempt transport (.inl ha)
  | failed e => exact .idle (.staleReport attempt (.failed e) ha fun _ => by simp)
  | received packet => exact .idle (.staleReport attempt (.received packet) ha fun _ => by simp)
  | closed => exact .idle (.staleReport attempt .closed ha fun _ => by simp)

theorem report_transition (attempt : Nat) (report : Report) :
    Transition s fault (.report attempt report)
      ((Turn.report ⟨s, fault, [], [], []⟩ attempt report).yield fun _ => .done) := by
  by_cases ha : attempt = s.attempt
  · subst ha
    simp only [Turn.report, ne_eq, not_true_eq_false, if_false]
    exact onReport_transition report []
  · simp only [Turn.report, ne_eq, ha, not_false_eq_true, if_true]
    exact onStaleReport_transition attempt report ha []

/-! ### Requests -/

theorem acquire_transition (request : Request) {check : Except Rejection Unit} {name : String}
    {next : UInt16 → Turn → Reply (Option UInt16)} (hr : request.takesId)
    (hcheck : request.check = check)
    (hnext : ∀ id ids log, check = .ok () → s.status = .connected →
      s.ids.acquire = (some id, ids) →
      Transition s fault (.request request)
        ((next id ⟨{ s with ids := ids }, fault, [], [], log⟩).yield .packetId)) :
    Transition s fault (.request request)
      (((Turn.requireValid ⟨s, fault, [], [], []⟩ check).andThen fun _ t =>
        (t.requireConnected name).andThen fun _ t => t.acquire.andThen next).yield .packetId) := by
  subst hcheck
  cases hc : request.check with
  | error why => exact .idle (.rejected request why hc)
  | ok _ =>
    by_cases hs : s.status = .connected
    · simp only [Turn.requireValid, Turn.requireConnected, Turn.done, Reply.andThen, hs, if_true]
      cases ha : s.ids.acquire with
      | mk found ids =>
        cases found with
        | none =>
          simp only [Turn.acquire, ha]
          exact .exhausted request ids hc hr hs ha
        | some id =>
          simp only [Turn.acquire, ha]
          exact hnext id ids [] hc hs ha
    · have hd : request ≠ .disconnect := by
        rintro rfl
        cases hr
      simp only [Turn.requireValid, Turn.requireConnected, Turn.done, Reply.andThen, hs, if_false]
      exact .idle (.notConnected request hc hd hs)

theorem publish_transition (packet : Publish) :
    Transition s fault (.request (.publish packet))
      ((Turn.publish ⟨s, fault, [], [], []⟩ packet).yield .packetId) := by
  apply acquire_transition (.publish packet) rfl rfl
  intro id ids log hc hs ha
  by_cases hq : packet.qos = .atMostOnce
  · apply Transition.of_send_andThen (.publishOnce packet id ids hc hs ha hq) log
    intro transport log'
    simp only [Turn.trackPublish, hq, if_true]
    rfl
  · apply Transition.of_send_andThen (.publish packet id ids hc hs ha hq) log
    intro transport log'
    simp only [Turn.trackPublish, hq, if_false]
    rfl

theorem subscribe_transition (packet : Subscribe) :
    Transition s fault (.request (.subscribe packet))
      ((Turn.subscribe ⟨s, fault, [], [], []⟩ packet).yield .packetId) := by
  apply acquire_transition (.subscribe packet) rfl rfl
  intro id ids log hc hs ha
  exact .of_send_andThen (.subscribe packet id ids hc hs ha) log fun _ _ => rfl

theorem unsubscribe_transition (packet : Unsubscribe) :
    Transition s fault (.request (.unsubscribe packet))
      ((Turn.unsubscribe ⟨s, fault, [], [], []⟩ packet).yield .packetId) := by
  apply acquire_transition (.unsubscribe packet) rfl rfl
  intro id ids log hc hs ha
  exact .of_send_andThen (.unsubscribe packet id ids hc hs ha) log fun _ _ => rfl

theorem ping_transition :
    Transition s fault (.request .ping) ((Turn.ping ⟨s, fault, [], [], []⟩).yield .packetId) := by
  by_cases hs : s.status = .connected
  · simp only [Turn.ping, Turn.requireConnected, Turn.done, Reply.andThen, hs, if_true]
    exact .of_send_andThen (.ping hs) [] fun _ _ => rfl
  · simp only [Turn.ping, Turn.requireConnected, Turn.done, Reply.andThen, hs, if_false]
    exact .idle (.notConnected .ping rfl (by simp) hs)

theorem disconnect_transition :
    Transition s fault (.request .disconnect)
      ((Turn.disconnect ⟨s, fault, [], [], []⟩).yield .packetId) := by
  by_cases hs : s.status = .connected ∨ s.status = .connecting
  · obtain ⟨log, hbye⟩ := Turn.sayGoodbye_teardown_eq
      (Turn.setStatus ⟨s, fault, [], [], []⟩ .disconnecting)
    have hrule : Transition s fault (.request .disconnect) _ := .disconnected hs
    simp only [Turn.disconnect]
    rw [if_pos hs, hbye]
    by_cases hc : s.status = .connecting
    · rw [if_pos hc] at hrule ⊢
      exact hrule
    · rw [if_neg hc, List.append_nil] at hrule
      rw [if_neg hc]
      exact hrule
  · obtain ⟨h₁, h₂⟩ := not_or.mp hs
    simp only [Turn.disconnect]
    rw [if_neg hs]
    exact .idle (.nothingToDisconnect h₁ h₂)

theorem request_transition (request : Request) :
    Transition s fault (.request request)
      ((Turn.request ⟨s, fault, [], [], []⟩ request).yield .packetId) := by
  cases request with
  | publish packet => exact publish_transition packet
  | subscribe packet => exact subscribe_transition packet
  | unsubscribe packet => exact unsubscribe_transition packet
  | ping => exact ping_transition
  | disconnect => exact disconnect_transition

/-! ### The rest -/

/-- An attempt begins without a write, whatever the transport would answer. -/
theorem startConnect_transition (generated : String) :
    Transition s fault (.startConnect generated)
      ((Turn.startConnect ⟨s, none, [], [], []⟩ generated).yield .attempt) := by
  by_cases hs : s.status = .disconnected
  · have hrule : Transition s fault (.startConnect generated) _ := .began generated hs _ rfl
    have hne : ¬s.status ≠ .disconnected := fun hne => hne hs
    simp only [Turn.startConnect]
    rw [if_neg hne]
    by_cases hc : (s.clientId.isEmpty && s.options.generateClientId) = true
    · rw [if_pos hc] at hrule
      simp only [Turn.chooseClientId]
      rw [if_pos hc]
      exact hrule
    · rw [if_neg hc] at hrule
      simp only [Turn.chooseClientId]
      rw [if_neg hc]
      exact hrule
  · simp only [Turn.startConnect]
    rw [if_pos hs]
    exact .idle (.connectNotAllowed generated hs)

theorem service_transition :
    Transition s fault .service ((Turn.service ⟨s, fault, [], [], []⟩).yield fun _ => .done) := by
  by_cases hd : s.status = .connected ∧ s.keepAlive.isDue s.now
  · have hsend : Transition s fault .service
        ((Turn.send ⟨s, fault, [], [], [.session (elapsedMs s.now) .pingDue]⟩ .pingreq).yield
          fun _ => .done) := .of_send (.keepAlive hd.1 hd.2) _ rfl rfl
    simp only [Turn.service]
    rw [if_pos hd]
    cases hr : (Turn.send ⟨s, fault, [], [], [.session (elapsedMs s.now) .pingDue]⟩
      .pingreq).result with
    | ok _ =>
      simp only [Turn.note, Turn.record, List.nil_append, hr]
      exact hsend
    | error e =>
      simp only [Reply.yield, hr] at hsend
      simp only [Turn.note, Turn.record, List.nil_append, hr]
      exact hsend
  · simp only [Turn.service]
    rw [if_neg hd]
    exact .idle (.notDue hd)

end Session

theorem Session.step_transition (s : Session) (input : Input) (now : Int) (fault : Option Error) :
    Transition (s.atTime now) fault input ((s.step input now fault).yield id) := by
  have hmap : ∀ {α : Type} (r : Reply α) (out : α → Output),
      (r.map out).yield id = r.yield out := by
    intro α r out
    obtain ⟨result, t⟩ := r
    cases result with
    | ok _ => rfl
    | error _ => rfl
  cases input with
  | startConnect generated =>
    simp only [step, hmap]
    exact startConnect_transition generated
  | report attempt report =>
    simp only [step, hmap]
    exact report_transition attempt report
  | request request =>
    simp only [step, hmap]
    exact request_transition request
  | service =>
    simp only [step, hmap]
    exact service_transition
  | nextService => exact .idle .nextService

end Mqtt
