import Mqtt.Proofs.Operations

/-!
# Held messages

A message that comes in at the highest level of service is held until the server releases it.
`Custody` says what one operation does to the message under one identifier unless held messages are
cleared, and `Holding` what is true of everything held.
-/

namespace Mqtt

def Event.released? : Event → Option Publish
  | publishReceived message => if message.qos = .exactlyOnce then some message else none
  | _ => none

namespace Session

def accepts? (s : Session) : Input → Option Packet
  | .report attempt (.received packet) =>
    if attempt = s.attempt ∧ s.status = .connected then some packet else none
  | _ => none

/-- The message of the highest level that comes in under an identifier. -/
def offered? (s : Session) (input : Input) (id : UInt16) : Option Publish :=
  match s.accepts? input with
  | some (.publish message) =>
    if message.qos = .exactlyOnce ∧ message.packetId = id then some message else none
  | _ => none

def installs (s : Session) : Input → Bool
  | .report attempt (.opened _) => attempt = s.attempt && s.status = .connecting
  | _ => false

/-- Held messages are cleared, where sessions do not outlive connections, when a transport is
installed and when a connection or an attempt at one ends. -/
def clears (s : Session) (input : Input) (after : Session) : Bool :=
  s.options.cleanSession &&
    (s.installs input || s.status ≠ .disconnected && after.status = .disconnected)

/-- What can happen to the message held under an identifier: it stays, with one that comes in taking
its place only if there is none, or it is delivered. The arguments are the message held before, the
one that comes in, those delivered and the message held after. -/
inductive Custody : Option Publish → Option Publish → List Publish → Option Publish → Prop
  | kept {held offered : Option Publish} : Custody held offered [] (held.or offered)
  | released {message : Publish} : Custody (some message) none [message] none

/-- What is held is of the highest level, each message under its own identifier; and sessions that
do not outlive connections hold nothing without one. -/
structure Holding (s : Session) : Prop where
  held : ∀ (id : UInt16) (message : Publish), s.inflight.held[id]? = some message →
    message.qos = .exactlyOnce ∧ message.packetId = id
  offline : s.options.cleanSession → s.status ≠ .connected → s.inflight.held = ∅

end Session

/-! ### Held messages -/

namespace Inflight

theorem held_hold (f : Inflight) (message : Publish) (id : UInt16) :
    ((f.hold message).getD f).held[id]? =
      f.held[id]?.or (if message.packetId = id then some message else none) := by
  unfold hold
  by_cases hc : f.held.contains message.packetId
  · rw [if_pos hc, Option.getD_none]
    by_cases hid : message.packetId = id
    · subst hid
      obtain ⟨other, ho⟩ := Option.isSome_iff_exists.mp
        (Std.ExtTreeMap.isSome_getElem?_eq_contains.trans hc)
      rw [ho, Option.some_or]
    · rw [if_neg hid, Option.or_none]
  · rw [if_neg hc, Option.getD_some, Std.ExtTreeMap.getElem?_insert]
    by_cases hid : message.packetId = id
    · subst hid
      have hn : f.held[message.packetId]? = none := by
        rw [← Option.not_isSome_iff_eq_none, Std.ExtTreeMap.isSome_getElem?_eq_contains]
        exact hc
      simp [hn]
    · simp [hid]

theorem unhold_some {f g : Inflight} {id : UInt16} {message : Publish}
    (h : f.unhold id = some (message, g)) :
    f.held[id]? = some message ∧ g = { f with held := f.held.erase id } := by
  unfold unhold at h
  split at h
  · next packet hl =>
    cases h
    exact ⟨hl, rfl⟩
  · cases h

theorem unhold_none {f : Inflight} {id : UInt16} (h : f.unhold id = none) :
    f.held[id]? = none := by
  unfold unhold at h
  split at h
  · cases h
  · next hl => exact hl

theorem onPubrec_held {f g : Inflight} {id : UInt16} (h : f.onPubrec id = some g) :
    g.held = f.held := by
  unfold onPubrec at h
  split at h
  · split at h
    · cases h
    · cases h
      rfl
    · cases h
      rfl
  · cases h

theorem onAck_held {f g : Inflight} {packet : Packet} (h : f.onAck packet = some g) :
    g.held = f.held := by
  have hcomplete : ∀ {id : UInt16} {phase : Phase}, f.completePublish id phase = some g →
      g.held = f.held := by
    intro id phase hg
    obtain ⟨-, -, -, rfl⟩ := completePublish_some hg
    rfl
  unfold onAck at h
  split at h
  · exact hcomplete h
  · exact hcomplete h
  · unfold onSuback at h
    split_ifs at h
    cases h
    rfl
  · unfold onUnsuback at h
    split_ifs at h
    cases h
    rfl
  · cases h

end Inflight

namespace Session

namespace Custody

variable {held offered after : Option Publish} {messages : List Publish}

theorem of_eq (h : after = held.or offered) : Custody held offered [] after := by
  rw [h]
  exact .kept

theorem same (h : after = held) : Custody held none [] after := by
  apply of_eq
  rw [h, Option.or_none]

theorem eq_none (h : Custody held offered messages after) (hne : messages ≠ []) :
    after = none := by
  cases h with
  | kept => exact absurd rfl hne
  | released => rfl

theorem eq_or (h : Custody held offered [] after) : after = held.or offered := by
  cases h with
  | kept => rfl

theorem delivered_or_held {message : Publish}
    (h : Custody (some message) offered messages after) :
    message ∈ messages ∨ after = some message := by
  cases h with
  | kept => exact .inr rfl
  | released => exact .inl (List.mem_singleton_self message)

end Custody

/-! ### One step -/

section Rules

variable {s : Session} {fault : Option Error} {input : Input} {y : Yield}

theorem released_abandoned (s : Session) : s.abandoned.filterMap Event.released? = [] :=
  s.filterMap_abandoned fun _ => rfl

theorem released_farewell (s : Session) (reason : Error) :
    (s.farewell reason).filterMap Event.released? = [] := by
  rw [s.filterMap_farewell fun _ => rfl]
  split_ifs
  · rfl
  · rfl

theorem offered?_of_accepts? {packet : Packet} {id : UInt16} (h : s.accepts? input = some packet)
    (hp : ∀ message, packet ≠ .publish message) : s.offered? input id = none := by
  unfold offered?
  rw [h]
  cases packet with
  | publish message => exact absurd rfl (hp message)
  | _ => rfl

theorem accepts?_of_not_connected (hs : s.status ≠ .connected) : s.accepts? input = none := by
  unfold accepts?
  split
  · rw [if_neg fun h => hs h.2]
  · rfl

theorem accepts?_of_stale {attempt : Nat} (report : Report) (ha : attempt ≠ s.attempt) :
    s.accepts? (.report attempt report) = none := by
  cases report with
  | received packet => exact if_neg fun h => ha h.1
  | _ => rfl

theorem offered?_of_not_connected (hs : s.status ≠ .connected) (id : UInt16) :
    s.offered? input id = none := by
  rw [offered?, accepts?_of_not_connected hs]

theorem accepts?_eq_some {packet : Packet} (h : s.accepts? input = some packet) :
    input = .report s.attempt (.received packet) ∧ s.status = .connected := by
  unfold accepts? at h
  split at h
  · split_ifs at h with hcur
    obtain ⟨rfl, hs⟩ := hcur
    cases h
    exact ⟨rfl, hs⟩
  · cases h

theorem accepts?_received (packet : Packet) (hs : s.status = .connected) :
    s.accepts? (.report s.attempt (.received packet)) = some packet := if_pos ⟨rfl, hs⟩

/-- What is prepared for a write holds the message that has come in, unless one is held already. -/
theorem Writes.held_prepared {u v : Session} {packet : Packet} {events : List Event}
    {output : Output} (h : Writes s input packet u v events output)
    (hc : s.options.cleanSession → s.installs input = false) (id : UInt16) :
    u.inflight.held[id]? = s.inflight.held[id]?.or (s.offered? input id) := by
  cases h with
  | connect transport hs =>
    have hn : ¬s.options.cleanSession := by
      intro hclean
      simpa [installs, hs] using hc hclean
    rw [offered?_of_not_connected (by simp [hs]), Option.or_none, install, if_neg hn]
  | pubrec message hs hq u hu =>
    subst hu
    have ho : s.offered? (.report s.attempt (.received (.publish message))) id =
        if message.packetId = id then some message else none := by
      simp [offered?, accepts?_received _ hs, hq]
    rw [ho]
    exact Inflight.held_hold s.inflight message id
  | puback message hs hq =>
    simp [offered?, accepts?_received _ hs, hq]
  | pubrel a f hs hr =>
    rw [offered?_of_accepts? (accepts?_received _ hs) (by simp), Option.or_none]
    exact congrArg (fun held : Std.ExtTreeMap UInt16 Publish compare => held[id]?)
      (Inflight.onPubrec_held hr)
  | pubcompOnly _ hs _ | pubcomp _ _ _ hs _ =>
    rw [offered?_of_accepts? (accepts?_received _ hs) (by simp), Option.or_none]
  | publishOnce _ _ _ _ _ _ _ | publish _ _ _ _ _ _ _ | subscribe _ _ _ _ _ _
  | unsubscribe _ _ _ _ _ _ | ping _ | keepAlive _ _ => exact Option.or_none.symm

theorem Writes.custody {u v : Session} {packet : Packet} {events : List Event} {output : Output}
    (h : Writes s input packet u v events output) (hs : Holding s)
    (hc : s.options.cleanSession → s.installs input = false) (id : UInt16) :
    Custody s.inflight.held[id]? (s.offered? input id)
      ((events.filterMap Event.released?).filter (·.packetId = id)) v.inflight.held[id]? := by
  have hu := h.held_prepared hc id
  cases h with
  | pubcomp a message f hst hr =>
    obtain ⟨hl, rfl⟩ := Inflight.unhold_some hr
    obtain ⟨hq, rfl⟩ := hs.held a message hl
    have ho : s.offered? (.report s.attempt (.received (.pubrel message.packetId))) id = none :=
      offered?_of_accepts? (accepts?_received _ hst) (by simp)
    rw [ho]
    by_cases hid : message.packetId = id
    · subst hid
      have hreleased : Custody (some message) none [message] none := .released
      simpa [Event.released?, hq, hl] using hreleased
    · have hl' : (s.inflight.held.erase message.packetId)[id]? = s.inflight.held[id]? := by
        simp [Std.ExtTreeMap.getElem?_erase, hid]
      have hnone : ([Event.publishReceived message].filterMap Event.released?).filter
          (·.packetId = id) = [] := by
        simp [Event.released?, hq, hid]
      rw [hnone]
      exact .same hl'
  | puback message _ hq =>
    have hnone : ([Event.publishReceived message].filterMap Event.released?) = [] := by
      simp [Event.released?, hq]
    rw [hnone]
    exact .of_eq hu
  | connect _ _ | pubrec _ _ _ _ _ | pubrel _ _ _ _ | pubcompOnly _ _ _ | ping _ | keepAlive _ _
  | publishOnce _ _ _ _ _ _ _ | publish _ _ _ _ _ _ _ | subscribe _ _ _ _ _ _
  | unsubscribe _ _ _ _ _ _ =>
    exact .of_eq hu

theorem clears_eq_false {after : Session} (h : s.clears input after = false)
    (hc : s.options.cleanSession) :
    s.installs input = false ∧ (s.status = .disconnected ∨ after.status ≠ .disconnected) := by
  simpa [clears, hc, Classical.or_iff_not_imp_left] using h

theorem held_ended (u : Session) (hc : u.options.cleanSession = false) :
    u.ended.inflight.held = u.inflight.held := by
  simp [ended, remains, hc]

theorem Idle.offered?_eq_none {result : Except Error Output} (h : Idle s input result)
    (id : UInt16) : s.offered? input id = none := by
  cases h with
  | staleReport attempt report ha _ => rw [offered?, accepts?_of_stale report ha]
  | outOfPlace packet _ hst => exact offered?_of_not_connected hst id
  | connackLate connack _ =>
    by_cases hst : s.status = .connected
    · exact offered?_of_accepts? (accepts?_received _ hst) (by simp)
    · exact offered?_of_not_connected hst id
  | neverFromServer packet hp =>
    by_cases hst : s.status = .connected
    · refine offered?_of_accepts? (accepts?_received _ hst) ?_
      rintro message rfl
      cases hp
    · exact offered?_of_not_connected hst id
  | nothingPending packet hst hp _ =>
    refine offered?_of_accepts? (accepts?_received _ hst) ?_
    rintro message rfl
    cases hp
  | nothingToRelease a hst _ => exact offered?_of_accepts? (accepts?_received _ hst) (by simp)
  | connectNotAllowed _ _ | failedLate _ _ | closedLate _ | rejected _ _ _ | notConnected _ _ _ _
  | nothingToDisconnect _ _ | notDue _ | nextService => rfl

/-- What any move does to the message held under an identifier, unless held messages are cleared. -/
theorem Transition.custody (h : Transition s fault input y) (hs : Holding s)
    (hc : s.clears input y.session = false) (id : UInt16) :
    Custody s.inflight.held[id]? (s.offered? input id)
      ((y.events.filterMap Event.released?).filter (·.packetId = id))
      y.session.inflight.held[id]? := by
  have hinstalls : s.options.cleanSession → s.installs input = false :=
    fun hclean => (clears_eq_false hc hclean).1
  -- A connection that ends without clearing is one of a session that goes on.
  have hended : s.status ≠ .disconnected → y.session.status = .disconnected →
      s.options.cleanSession = false := by
    intro hst hst'
    by_contra hclean
    rcases (clears_eq_false hc (by simpa using hclean)).2 with hd | hd
    · exact hst hd
    · exact hd hst'
  cases h with
  | idle hi =>
    rw [hi.offered?_eq_none]
    exact .same rfl
  | wrote hw _ _ => exact hw.custody hs hinstalls id
  | @writeFailed _ _ u _ _ _ _ hw _ =>
    have hu : u.options.cleanSession = false := by
      rw [hw.frame.1.1]
      exact hended hw.status_ne rfl
    dsimp only
    rw [released_farewell, held_ended u hu]
    exact .of_eq (hw.held_prepared hinstalls id)
  | closed hst =>
    dsimp only
    rw [released_farewell, held_ended s (hended hst rfl)]
    exact .same rfl
  | disconnected hst =>
    have hst' : s.status ≠ .disconnected := by
      rcases hst with hst | hst
      · simp [hst]
      · simp [hst]
    have hlast : (if s.status = .connecting then [Event.connectionFailure .cancelledByDisconnect]
        else []).filterMap Event.released? = [] := by
      split_ifs
      · rfl
      · rfl
    dsimp only
    rw [List.filterMap_append, released_abandoned, hlast, held_ended s (hended hst' rfl)]
    exact .same rfl
  | accepted connack hst _ =>
    rw [offered?_of_not_connected (by simp [hst])]
    exact .same rfl
  | refused connack hst _ =>
    rw [offered?_of_not_connected (by simp [hst])]
    exact .same rfl
  | delivered message hst hq =>
    have ho : s.offered? (.report s.attempt (.received (.publish message))) id = none := by
      simp [offered?, accepts?_received _ hst, hq]
    have hnone : [Event.publishReceived message].filterMap Event.released? = [] := by
      simp [Event.released?, hq]
    rw [ho, hnone]
    exact .same rfl
  | completed packet a event f hst hp ha =>
    have ho : s.offered? (.report s.attempt (.received packet)) id = none := by
      refine offered?_of_accepts? (accepts?_received _ hst) ?_
      rintro message rfl
      cases hp
    have hnone : [event].filterMap Event.released? = [] := by
      cases packet <;> cases hp <;> rfl
    dsimp only
    rw [ho, hnone, Inflight.onAck_held ha]
    exact .same rfl
  | ponged hst =>
    rw [offered?_of_accepts? (accepts?_received _ hst) (by simp)]
    exact .same rfl
  | discarded _ _ _ | began _ _ _ _ | failed _ _ | exhausted _ _ _ _ _ _ => exact .same rfl

end Rules

end Session

end Mqtt
