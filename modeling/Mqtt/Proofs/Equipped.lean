import Mqtt.Session.Run

/-!
# Every write finds a transport

A write without a transport is an internal error, and leaves a note of its own in the log. As long
as an accepted connection has a transport, no operation leaves such a note: what is written while
there is no connection yet goes to a transport just installed.
-/

namespace Mqtt

/-- The kind of packet for which there was no transport, if a note tells of one. -/
def SessionNote.missing? : SessionNote → Option PacketKind
  | noTransport kind => some kind
  | _ => none

def Entry.missing? : Entry → Option PacketKind
  | session _ note => note.missing?
  | _ => none

def Session.Equipped (s : Session) : Prop := s.status = .connected → s.transport.isSome

namespace Turn

def missing (t : Turn) : List PacketKind := t.log.filterMap Entry.missing?

variable {α : Type} (t : Turn)

theorem missing_record {e : Entry} (he : e.missing? = none) : (t.record e).missing = t.missing := by
  simp [missing, record, he]

@[simp] theorem missing_note (n : SessionNote) :
    (t.note n).missing = t.missing ++ n.missing?.toList := by
  cases n <;> simp [missing, note, record, Entry.missing?, SessionNote.missing?]

theorem missing_note_eq {n : SessionNote} (hn : n.missing? = none) :
    (t.note n).missing = t.missing := t.missing_record hn

/-! ### Parts of operations -/

@[simp] theorem missing_emit (e : Event) : (t.emit e).missing = t.missing := rfl

@[simp] theorem missing_discard (transport : TransportId) :
    (t.discard transport).missing = t.missing := rfl

@[simp] theorem missing_setInflight (f : Inflight) : (t.setInflight f).missing = t.missing := rfl

@[simp] theorem missing_release (id : UInt16) : (t.release id).missing = t.missing := rfl

@[simp] theorem missing_resetKeepAlive : t.resetKeepAlive.missing = t.missing := rfl

@[simp] theorem missing_setStatus (next : Status) : (t.setStatus next).missing = t.missing :=
  t.missing_note_eq rfl

@[simp] theorem missing_closeTransport : t.closeTransport.missing = t.missing := by
  unfold closeTransport
  split
  · rfl
  · exact t.missing_note_eq rfl

@[simp] theorem missing_dropHeldIfClean : t.dropHeldIfClean.missing = t.missing := by
  unfold dropHeldIfClean
  split <;> rfl

@[simp] theorem missing_abandonPending : t.abandonPending.missing = t.missing := by
  unfold abandonPending
  dsimp only
  rw [missing_dropHeldIfClean]
  split
  · rfl
  · exact t.missing_note_eq rfl

@[simp] theorem missing_teardown : t.teardown.missing = t.missing := by
  simp [teardown]

@[simp] theorem missing_endConnection (reason : Error) :
    (t.endConnection reason).missing = t.missing := by
  simp [endConnection]

variable {t}

theorem missing_write (ht : t.session.transport.isSome) (p : Packet) :
    (t.write p).turn.missing = t.missing := by
  obtain ⟨transport, ht⟩ := Option.isSome_iff_exists.mp ht
  have hp : (t.record (.packet "Writing packet: " p)).missing = t.missing :=
    t.missing_record rfl
  unfold write
  rw [ht]
  dsimp only
  split <;> exact hp

theorem missing_send (ht : t.session.transport.isSome) (p : Packet) :
    (t.send p).turn.missing = t.missing := by
  have hw := missing_write ht p
  unfold send
  split
  · next u h =>
    rw [h] at hw
    exact hw
  · next e u h =>
    rw [h] at hw
    simpa [fail, SessionNote.missing?] using hw

theorem missing_send_andThen (ht : t.session.transport.isSome) (p : Packet)
    {next : Unit → Turn → Reply α} (hn : ∀ u, (next () u).turn.missing = u.missing) :
    ((t.send p).andThen next).turn.missing = t.missing := by
  rw [← missing_send ht p]
  generalize t.send p = r
  obtain ⟨result, u⟩ := r
  cases result with
  | ok _ => exact hn u
  | error _ => rfl

/-! ### Received packets -/

theorem missing_onConnack (connack : Connack) : (t.onConnack connack).missing = t.missing := by
  unfold onConnack
  dsimp only
  split
  · simp [SessionNote.missing?]
  · split <;> simp [SessionNote.missing?]

theorem missing_whileConnected {kind : PacketKind} {next : Turn → Reply Unit}
    (hn : ∀ u, u.session = t.session → u.session.status = .connected →
      (next u).turn.missing = u.missing) :
    (t.whileConnected kind next).turn.missing = t.missing := by
  unfold whileConnected
  dsimp only
  split
  · next hs =>
    have hrest := hn (t.note (.processing kind)) rfl hs
    rw [hrest]
    simp [SessionNote.missing?]
  · simp [done, SessionNote.missing?]

theorem missing_onPublish (ht : t.session.transport.isSome) (p : Publish) :
    (t.onPublish p).turn.missing = t.missing := by
  unfold onPublish
  split
  · rfl
  · exact missing_send_andThen ht _ fun _ => rfl
  · unfold holdMessage
    split
    · next f _ => exact missing_send (t := t.setInflight f) ht _
    · rw [missing_send (t := t.note _) ht]
      simp [SessionNote.missing?]

theorem missing_complete (kind : PacketKind) (id : UInt16) (after : Option Inflight)
    (event : Event) : (t.complete kind id after event).missing = t.missing := by
  cases after <;> simp [complete, SessionNote.missing?]

theorem missing_onPubrec (ht : t.session.transport.isSome) (id : UInt16) :
    (t.onPubrec id).turn.missing = t.missing := by
  unfold onPubrec
  split
  · next f _ => exact missing_send (t := t.setInflight f) ht _
  · simp [done, SessionNote.missing?]

theorem missing_onPubrel (ht : t.session.transport.isSome) (id : UInt16) :
    (t.onPubrel id).turn.missing = t.missing := by
  refine missing_send_andThen ht _ fun u => ?_
  simp only [deliverHeld, done]
  split <;> simp [SessionNote.missing?]

theorem missing_receive (he : t.session.Equipped) (p : Packet) :
    (t.receive p).turn.missing = t.missing := by
  have hp : (t.record (.packet "Received packet: " p)).missing = t.missing :=
    t.missing_record rfl
  have hu : (t.record (.packet "Received packet: " p)).session.Equipped := he
  unfold receive
  dsimp only
  rw [← hp]
  generalize t.record (.packet "Received packet: " p) = u at hu
  have htransport : ∀ v : Turn, v.session = u.session → v.session.status = .connected →
      v.session.transport.isSome := by
    intro v hv hs
    rw [hv] at hs ⊢
    exact hu hs
  cases p with
  | connack connack => exact missing_onConnack connack
  | publish p =>
    exact missing_whileConnected fun v hv hs => missing_onPublish (htransport v hv hs) p
  | pubrec id =>
    exact missing_whileConnected fun v hv hs => missing_onPubrec (htransport v hv hs) id
  | pubrel id =>
    exact missing_whileConnected fun v hv hs => missing_onPubrel (htransport v hv hs) id
  | puback _ | pubcomp _ | suback _ | unsuback _ =>
    exact missing_whileConnected fun v _ _ => missing_complete _ _ _ _
  | pingresp => exact missing_whileConnected fun _ _ _ => rfl
  | connect _ | subscribe _ | unsubscribe _ | pingreq | disconnect =>
    simp [done, SessionNote.missing?]

/-! ### Reports -/

theorem missing_onOpened (transport : TransportId) :
    (t.onOpened transport).turn.missing = t.missing := by
  unfold onOpened
  split
  · simp [fail, SessionNote.missing?]
  · refine (missing_send rfl _).trans ?_
    change (t.note .opened).dropHeldIfClean.missing = _
    simp [SessionNote.missing?]

theorem missing_onReport (he : t.session.Equipped) (report : Report) :
    (t.onReport report).turn.missing = t.missing := by
  cases report with
  | opened transport => exact missing_onOpened transport
  | failed e =>
    simp only [onReport, onFailed, done]
    split <;> simp [SessionNote.missing?]
  | received p => exact missing_receive he p
  | closed =>
    simp only [onReport, onClosed, done]
    split <;> simp [SessionNote.missing?]

theorem missing_onStaleReport (attempt : Nat) (report : Report) :
    (t.onStaleReport attempt report).turn.missing = t.missing := by
  cases report <;> simp [onStaleReport, done, fail, SessionNote.missing?]

theorem missing_report (he : t.session.Equipped) (attempt : Nat) (report : Report) :
    (t.report attempt report).turn.missing = t.missing := by
  refine (missing_note_eq _ rfl).trans ((missing_record _ rfl).trans ?_)
  split
  · exact missing_onStaleReport attempt report
  · exact missing_onReport he report

/-! ### Requests -/

theorem missing_acquired (he : t.session.Equipped) (check : Except Rejection Unit) (name : String)
    {next : UInt16 → Turn → Reply α} (hn : ∀ id u, u.session.transport.isSome →
      (next id u).turn.missing = u.missing) :
    ((t.requireValid check).andThen fun _ t =>
        (t.requireConnected name).andThen fun _ t => t.acquire.andThen next).turn.missing =
      t.missing := by
  cases check with
  | error _ => exact t.missing_record rfl
  | ok _ =>
    change ((t.requireConnected name).andThen fun _ t => t.acquire.andThen next).turn.missing = _
    unfold requireConnected
    split
    · next hs =>
      change (t.acquire.andThen next).turn.missing = _
      unfold acquire
      split
      · next id ids _ => exact hn id { t with session := { t.session with ids := ids } } (he hs)
      · exact missing_record _ rfl
    · exact t.missing_note_eq rfl

theorem missing_trackPublish (p : Publish) : (t.trackPublish p).missing = t.missing := by
  unfold trackPublish
  split <;> rfl

theorem missing_ping (he : t.session.Equipped) : t.ping.turn.missing = t.missing := by
  unfold ping requireConnected
  split
  · next hs => exact missing_send_andThen (he hs) _ fun _ => rfl
  · exact t.missing_note_eq rfl

theorem missing_sayGoodbye : t.sayGoodbye.missing = t.missing := by
  unfold sayGoodbye
  split
  · next ht =>
    have hw := missing_write ht .disconnect
    split
    · next u h =>
      rw [h] at hw
      exact hw
    · next e u h =>
      rw [h] at hw
      simpa [SessionNote.missing?] using hw
  · rfl

theorem missing_disconnect : t.disconnect.turn.missing = t.missing := by
  unfold disconnect
  dsimp only
  split
  · dsimp only
    split <;> simp [missing_sayGoodbye]
  · simp [fail, SessionNote.missing?]

theorem missing_request (he : t.session.Equipped) (q : Request) :
    (t.request q).turn.missing = t.missing := by
  refine (missing_note_eq _ rfl).trans ((missing_record _ rfl).trans ?_)
  cases q with
  | publish p =>
    exact missing_acquired he _ _ fun _ _ ht =>
      missing_send_andThen ht _ fun _ => missing_trackPublish _
  | subscribe p =>
    exact missing_acquired he _ _ fun _ _ ht => missing_send_andThen ht _ fun _ => rfl
  | unsubscribe p =>
    exact missing_acquired he _ _ fun _ _ ht => missing_send_andThen ht _ fun _ => rfl
  | ping => exact missing_ping he
  | disconnect => exact missing_disconnect

/-! ### The rest -/

theorem missing_startConnect (generated : String) :
    (t.startConnect generated).turn.missing = t.missing := by
  unfold startConnect chooseClientId
  split
  · simp [fail, SessionNote.missing?]
  · rw [missing_setStatus]
    split
    · exact missing_note_eq _ rfl
    · rfl

theorem missing_service (he : t.session.Equipped) : t.service.turn.missing = t.missing := by
  unfold service
  split
  · next hs =>
    have hsent : ((t.note .pingDue).send .pingreq).turn.missing = t.missing := by
      rw [missing_send (t := t.note _) (he hs.1)]
      simp [SessionNote.missing?]
    dsimp only
    split
    · exact hsent
    · simpa [SessionNote.missing?] using hsent
  · rfl

end Turn

/-- Where an accepted connection has a transport, an operation finds one for what it writes. -/
theorem Session.missing_step {s : Session} (he : s.Equipped) (input : Input) (now : Int)
    (fault : Option Error) : (s.step input now fault).turn.missing = [] := by
  cases input with
  | startConnect generated => exact Turn.missing_startConnect generated
  | report attempt report => exact Turn.missing_report he attempt report
  | request q => exact Turn.missing_request he q
  | service => exact Turn.missing_service he
  | nextService => exact Turn.missing_note_eq _ rfl

end Mqtt
