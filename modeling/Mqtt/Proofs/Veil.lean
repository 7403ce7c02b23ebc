import Mqtt.Session.Run

/-!
# Veiled values

What is left of a value when its secrets are taken out: of a payload its length, of a user name or
a password that it is set. Values that are equal once they are veiled differ in secrets alone, and
no text that goes to a log tells them apart.
-/

namespace Mqtt

def blank (bytes : ByteArray) : ByteArray := ⟨Array.replicate bytes.size 0⟩

@[simp] theorem size_blank (bytes : ByteArray) : (blank bytes).size = bytes.size :=
  Array.size_replicate

theorem blank_eq_blank_iff {a b : ByteArray} : blank a = blank b ↔ a.size = b.size := by
  constructor
  · intro h
    rw [← size_blank a, h, size_blank]
  · intro h
    rw [blank, blank, h]

/-! ### Packets -/

def Will.veil (w : Will) : Will := { w with payload := blank w.payload }

def Connect.veil (c : Connect) : Connect :=
  { c with
    will := c.will.map Will.veil
    username := c.username.map fun _ => ""
    password := c.password.map fun _ => .empty }

def Publish.veil (p : Publish) : Publish := { p with payload := blank p.payload }

def Packet.veil : Packet → Packet
  | connect c => .connect c.veil
  | publish p => .publish p.veil
  | p => p

/-- Publishes that differ in secrets differ in the bytes of their payloads, not in their number. -/
theorem Publish.veil_eq_veil_iff {p p' : Publish} :
    p.veil = p'.veil ↔ ∃ payload, payload.size = p.payload.size ∧
      p' = { p with payload := payload } := by
  obtain ⟨id, topic, qos, duplicate, retain, payload⟩ := p
  obtain ⟨id', topic', qos', duplicate', retain', payload'⟩ := p'
  simp only [veil, Publish.mk.injEq, blank_eq_blank_iff]
  constructor
  · rintro ⟨rfl, rfl, rfl, rfl, rfl, h⟩
    exact ⟨payload', h.symm, rfl, rfl, rfl, rfl, rfl, rfl⟩
  · rintro ⟨_, h, rfl, rfl, rfl, rfl, rfl, rfl⟩
    exact ⟨rfl, rfl, rfl, rfl, rfl, h.symm⟩

@[simp] theorem Packet.kind_veil (p : Packet) : p.veil.kind = p.kind := by cases p <;> rfl

theorem Will.text_veil (w : Will) : w.veil.text = w.text := by
  simp [text, veil, Text.lineBytes]

theorem optionalField_map {α β : Type} (name : String) (value : Option α) (f : α → β)
    (text : β → String) :
    optionalField name (value.map f) text = optionalField name value (text ∘ f) := by
  cases value <;> rfl

theorem Connect.body_veil (c : Connect) : c.veil.body = c.body := by
  have hwill : Will.text ∘ Will.veil = Will.text := funext Will.text_veil
  simp only [body, veil, optionalField_map, hwill]
  rfl

theorem Publish.body_veil (p : Publish) : p.veil.body = p.body := by
  simp [body, veil, Text.lineBytes]

theorem Packet.text_veil (p : Packet) : p.veil.text = p.text := by
  cases p with
  | connect c => simp only [veil, text, kind, body, c.body_veil]
  | publish p => simp only [veil, text, kind, body, p.body_veil]
  | _ => rfl

theorem Packet.summary_veil (p : Packet) : p.veil.summary = p.summary := by
  rw [summary, kind_veil, summary]

/-! ### What a session is given and gives -/

def ConnectOptions.veil (o : ConnectOptions) : ConnectOptions :=
  { o with
    username := o.username.map fun _ => ""
    password := o.password.map fun _ => .empty
    will := o.will.map Will.veil }

def Abandoned.veil : Abandoned → Abandoned
  | publish p => .publish p.veil
  | operation => operation

def Event.veil : Event → Event
  | publishReceived p => .publishReceived p.veil
  | operationAbandoned operation => .operationAbandoned operation.veil
  | e => e

def Io.veil : Io → Io
  | wrote transport p => .wrote transport p.veil
  | refused transport p => .refused transport p.veil
  | closed transport => .closed transport

def Report.veil : Report → Report
  | received p => .received p.veil
  | report => report

def Request.veil : Request → Request
  | publish p => .publish p.veil
  | request => request

def Session.Input.veil : Session.Input → Session.Input
  | report attempt what => .report attempt what.veil
  | request what => .request what.veil
  | input => input

@[simp] theorem Abandoned.packetId_veil (a : Abandoned) : a.veil.packetId = a.packetId := by
  cases a <;> rfl

theorem ConnectOptions.spelled_eq_of_veil {o o' : ConnectOptions} (h : o.veil = o'.veil)
    (hw : o.will = o'.will) : o.spelled = o'.spelled := by
  obtain ⟨id, generate, clean, keepAlive, auto, username, password, will⟩ := o
  obtain ⟨id', generate', clean', keepAlive', auto', username', password', will'⟩ := o'
  simp only [veil, ConnectOptions.mk.injEq] at h hw
  obtain ⟨rfl, rfl, rfl, rfl, rfl, husername, hpassword, -⟩ := h
  subst hw
  have hset : ∀ {α β : Type} {x y : Option α} {a : α} (b : β),
      x.map (fun _ => a) = y.map (fun _ => a) → x.map (fun _ => b) = y.map (fun _ => b) := by
    intro α β x y a b hxy
    cases x <;> cases y <;> simp_all
  simp only [spelled, hset _ husername, hset _ hpassword]

/-! ### Log entries -/

def Entry.veil : Entry → Entry
  | packet lead p => .packet lead p.veil
  | e => e

theorem Entry.line?_veil (limit : Option Level) (e : Entry) :
    e.veil.line? limit = e.line? limit := by
  cases e with
  | packet lead p => simp only [veil, line?, p.text_veil, p.summary_veil]
  | _ => rfl

theorem logLines_veil (limit : Option Level) (entries : List Entry) :
    logLines limit (entries.map Entry.veil) = logLines limit entries := by
  rw [logLines, List.filterMap_map, logLines]
  congr 1
  exact funext (Entry.line?_veil limit)

/-! ### Operations in flight -/

def PendingPublish.veil (p : PendingPublish) : PendingPublish := { p with packet := p.packet.veil }

namespace Inflight

section Maps

open Std

variable {β γ : Type} (g : β → γ) (t : ExtTreeMap UInt16 β compare)

theorem map_insert (id : UInt16) (b : β) :
    (t.insert id b).map (fun _ => g) = (t.map fun _ => g).insert id (g b) := by
  apply ExtTreeMap.ext_getElem?
  intro a
  simp only [ExtTreeMap.getElem?_map, ExtTreeMap.getElem?_insert]
  split <;> rfl

theorem map_erase (id : UInt16) :
    (t.erase id).map (fun _ => g) = (t.map fun _ => g).erase id := by
  apply ExtTreeMap.ext_getElem?
  intro a
  simp only [ExtTreeMap.getElem?_map, ExtTreeMap.getElem?_erase]
  split <;> rfl

end Maps

def veil (f : Inflight) : Inflight :=
  { f with
    publishes := f.publishes.map fun _ => PendingPublish.veil
    held := f.held.map fun _ => Publish.veil }

variable (f : Inflight)

theorem veil_empty : veil {} = {} := by
  simp [veil]

theorem veil_trackPublish (p : Publish) :
    (f.trackPublish p).veil = f.veil.trackPublish p.veil := by
  simp only [trackPublish, veil, map_insert]
  rfl

theorem getElem?_publishes_veil (id : UInt16) :
    f.veil.publishes[id]? = f.publishes[id]?.map PendingPublish.veil :=
  Std.ExtTreeMap.getElem?_map

theorem getElem?_held_veil (id : UInt16) : f.veil.held[id]? = f.held[id]?.map Publish.veil :=
  Std.ExtTreeMap.getElem?_map

theorem completePublish_veil (id : UInt16) (phase : Phase) :
    f.veil.completePublish id phase = (f.completePublish id phase).map veil := by
  unfold completePublish
  rw [getElem?_publishes_veil]
  cases f.publishes[id]? with
  | none => rfl
  | some pending =>
    by_cases h : pending.phase = phase
    · simp [PendingPublish.veil, h, veil, map_erase]
    · simp [PendingPublish.veil, h]

theorem onPubrec_veil (id : UInt16) : f.veil.onPubrec id = (f.onPubrec id).map veil := by
  unfold onPubrec
  rw [getElem?_publishes_veil]
  cases f.publishes[id]? with
  | none => rfl
  | some pending =>
    obtain ⟨packet, phase⟩ := pending
    cases phase with
    | awaitingReceipt => simp [PendingPublish.veil, veil, map_insert]
    | awaitingAck | awaitingCompletion => rfl

theorem onSuback_veil (id : UInt16) : f.veil.onSuback id = (f.onSuback id).map veil := by
  unfold onSuback
  by_cases h : f.subscribes.contains id <;> simp [veil, h]

theorem onUnsuback_veil (id : UInt16) : f.veil.onUnsuback id = (f.onUnsuback id).map veil := by
  unfold onUnsuback
  by_cases h : f.unsubscribes.contains id <;> simp [veil, h]

theorem hold_veil (p : Publish) : f.veil.hold p.veil = (f.hold p).map veil := by
  have hc : f.veil.held.contains p.veil.packetId = f.held.contains p.packetId :=
    Std.ExtTreeMap.contains_map
  unfold hold
  rw [hc]
  by_cases h : f.held.contains p.packetId
  · simp [h]
  · simp [h, veil, map_insert, Publish.veil]

theorem unhold_veil (id : UInt16) :
    f.veil.unhold id = (f.unhold id).map fun (p, g) => (p.veil, g.veil) := by
  unfold unhold
  rw [getElem?_held_veil]
  cases f.held[id]? with
  | none => rfl
  | some p => simp [veil, map_erase]

theorem veil_dropHeld : f.dropHeld.veil = f.veil.dropHeld := by
  simp [dropHeld, veil]

@[simp] theorem pendingCount_veil : f.veil.pendingCount = f.pendingCount := by
  simp [pendingCount, veil, Std.ExtTreeMap.size_map]

@[simp] theorem heldCount_veil : f.veil.heldCount = f.heldCount := by
  simp [heldCount, veil, Std.ExtTreeMap.size_map]

theorem pending_veil : f.veil.pending = f.pending.map Abandoned.veil := by
  simp [pending, veil, Std.ExtTreeMap.toList_map, Function.comp_def, Abandoned.veil,
    PendingPublish.veil]

theorem abandon_veil : f.veil.abandon = (f.abandon.1.map Abandoned.veil, f.abandon.2.veil) := by
  have hsort : byId (f.pending.map Abandoned.veil) = (byId f.pending).map Abandoned.veil := by
    refine (List.map_mergeSort ?_).symm
    intro a _ b _
    simp
  simp only [abandon, pending_veil, hsort]
  simp [veil]

end Inflight

end Mqtt
