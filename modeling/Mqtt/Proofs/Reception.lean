import Mqtt.Proofs.Moves
import Mqtt.Simulation.Traffic

/-!
# Reception

What an accepted connection makes of a packet that comes in, as functions of the operations in
flight: what is in flight after it, the answer to it, the event that it brings about and the
operation that it completes. `Transition.of_received` says that this is all, as long as the answer
can be written, `arrivals_run` what a sequence of packets adds up to, and `received_getElem` what
each packet of the sequence finds and brings about.
-/

namespace Mqtt

namespace Inflight

def receive (f : Inflight) : Packet → Inflight
  | .publish message => if message.qos = .exactlyOnce then (f.hold message).getD f else f
  | .pubrec id => (f.onPubrec id).getD f
  | .pubrel id => ((f.unhold id).map Prod.snd).getD f
  | packet => (f.onAck packet).getD f

def reply? (f : Inflight) : Packet → Option Packet
  | .publish message =>
    match message.qos with
    | .atMostOnce => none
    | .atLeastOnce => some (.puback message.packetId)
    | .exactlyOnce => some (.pubrec message.packetId)
  | .pubrec id => if (f.onPubrec id).isSome then some (.pubrel id) else none
  | .pubrel id => some (.pubcomp id)
  | _ => none

def completed? (f : Inflight) (packet : Packet) : Option (UInt16 × Event) :=
  if (f.onAck packet).isSome then packet.completion else none

def event? (f : Inflight) (packet : Packet) : Option Event :=
  match packet with
  | .publish message => if message.qos = .exactlyOnce then none else some (.publishReceived message)
  | .pubrel id => (f.unhold id).map fun held => .publishReceived held.1
  | .pingresp => some .pingResponse
  | .puback _ | .pubcomp _ | .suback _ | .unsuback _ => (f.completed? packet).map Prod.snd
  | .pubrec _ | .connect _ | .connack _ | .subscribe _ | .unsubscribe _ | .pingreq
  | .disconnect => none

end Inflight

namespace Session

/-- The session once a packet has been taken in and answered. -/
def received (s : Session) (packet : Packet) : Session :=
  { s with
    inflight := s.inflight.receive packet
    ids := (s.inflight.completed? packet).elim s.ids fun done => s.ids.release done.1
    keepAlive :=
      if (s.inflight.reply? packet).isSome then s.keepAlive.onWrite s.now else s.keepAlive }

def reception (s : Session) (packet : Packet) : Yield where
  result := .ok .done
  session := s.received packet
  events := (s.inflight.event? packet).toList
  io := (s.inflight.reply? packet).toList.flatMap fun reply =>
    s.transport.toList.map (Io.wrote · reply)

section Rules

variable {s : Session} {fault : Option Error} {packet : Packet} {y : Yield}

theorem reception_of_idle (hr : s.inflight.receive packet = s.inflight)
    (hreply : s.inflight.reply? packet = none) (hevent : s.inflight.event? packet = none)
    (hcompleted : s.inflight.completed? packet = none) :
    s.inflight.reply? packet = none ∧ s.reception packet = ⟨.ok .done, s, [], []⟩ := by
  refine ⟨hreply, ?_⟩
  simp only [reception, received, hr, hreply, hevent, hcompleted]
  rfl

theorem Idle.reception_eq {result : Except Error Output}
    (h : Idle s (.report s.attempt (.received packet)) result) (hs : s.status = .connected) :
    s.inflight.reply? packet = none ∧ s.reception packet = ⟨result, s, [], []⟩ := by
  cases h with
  | staleReport _ _ ha _ => exact absurd rfl ha
  | outOfPlace _ _ hne => exact absurd hs hne
  | connackLate _ _ => exact reception_of_idle rfl rfl rfl rfl
  | neverFromServer _ hp => cases packet <;> cases hp <;> exact reception_of_idle rfl rfl rfl rfl
  | nothingPending _ _ hp ha =>
    have hcompleted : s.inflight.completed? packet = none := by
      rw [Inflight.completed?, ha]
      rfl
    cases packet with
    | puback _ | pubcomp _ | suback _ | unsuback _ =>
      refine reception_of_idle ?_ rfl ?_ hcompleted
      · simp only [Inflight.receive, ha, Option.getD_none]
      · simp only [Inflight.event?, hcompleted, Option.map_none]
    | connect _ | connack _ | publish _ | pubrec _ | pubrel _ | subscribe _ | unsubscribe _
    | pingreq | pingresp | disconnect => cases hp
  | nothingToRelease _ _ hr =>
    refine reception_of_idle ?_ ?_ rfl rfl
    · simp only [Inflight.receive, hr, Option.getD_none]
    · simp only [Inflight.reply?, hr, Option.isSome_none, Bool.false_eq_true, if_false]

theorem reception_of_completion {id : UInt16} {event : Event} {f : Inflight}
    (hp : packet.completion = some (id, event)) (ha : s.inflight.onAck packet = some f) :
    s.inflight.reply? packet = none ∧ s.reception packet =
      ⟨.ok .done, { s with inflight := f, ids := s.ids.release id }, [event], []⟩ := by
  have hcompleted : s.inflight.completed? packet = some (id, event) := by
    rw [Inflight.completed?, ha, hp]
    rfl
  cases packet with
  | puback _ | pubcomp _ | suback _ | unsuback _ =>
    refine ⟨rfl, ?_⟩
    simp only [reception, received, hcompleted, Inflight.receive, Inflight.event?, ha]
    rfl
  | connect _ | connack _ | publish _ | pubrec _ | pubrel _ | subscribe _ | unsubscribe _
  | pingreq | pingresp | disconnect => cases hp

theorem Writes.reply_eq {k : Nat} {u v : Session} {reply : Packet} {events : List Event}
    {output : Output} (h : Writes s (.report k (.received packet)) reply u v events output) :
    s.inflight.reply? packet = some reply ∧ u.transport = s.transport ∧ output = .done ∧
      events = (s.inflight.event? packet).toList ∧ v.written = s.received packet := by
  cases h with
  | puback message _ hq =>
    refine ⟨?_, rfl, rfl, ?_, ?_⟩
    · simp only [Inflight.reply?, hq]
    · simp [Inflight.event?, hq]
    · simp only [received, Inflight.receive, Inflight.reply?, hq]
      rfl
  | pubrec message _ hq _ hu =>
    subst hu
    refine ⟨?_, rfl, rfl, ?_, ?_⟩
    · simp only [Inflight.reply?, hq]
    · simp [Inflight.event?, hq]
    · simp only [received, Inflight.receive, Inflight.reply?, hq]
      rfl
  | pubrel id f _ hr =>
    refine ⟨?_, rfl, rfl, rfl, ?_⟩
    · simp [Inflight.reply?, hr]
    · simp only [received, Inflight.receive, Inflight.reply?, hr]
      rfl
  | pubcompOnly id _ hr =>
    refine ⟨rfl, rfl, rfl, ?_, ?_⟩
    · simp [Inflight.event?, hr]
    · simp only [received, Inflight.receive, Inflight.reply?, hr]
      rfl
  | pubcomp id message f _ hr =>
    refine ⟨rfl, rfl, rfl, ?_, ?_⟩
    · simp [Inflight.event?, hr]
    · simp only [received, Inflight.receive, Inflight.reply?, hr]
      rfl

/-- A packet on an accepted connection is taken in and answered, unless there is something to write
and it cannot be written. -/
theorem Transition.of_received (h : Transition s fault (.report s.attempt (.received packet)) y)
    (hs : s.status = .connected) :
    y = s.reception packet ∧
        ((s.inflight.reply? packet).isSome → s.writeError fault = none) ∨
      ∃ reply u v events output,
        Writes s (.report s.attempt (.received packet)) reply u v events output ∧
          (u.writeError fault).isSome := by
  cases h with
  | idle hi =>
    obtain ⟨hr, heq⟩ := hi.reception_eq hs
    exact .inl ⟨heq.symm, fun hsome => by simp [hr] at hsome⟩
  | @wrote _ reply u _ _ _ transport hw ht hf =>
    obtain ⟨hr, hu, rfl, rfl, hv⟩ := hw.reply_eq
    have ht' : s.transport = some transport := hu ▸ ht
    refine .inl ⟨?_, fun _ => ?_⟩
    · rw [reception, hv, hr, ht']
      rfl
    · rw [writeError, ht', hf]
      rfl
  | writeFailed hw he => exact .inr ⟨_, _, _, _, _, hw, Option.isSome_of_eq_some he⟩
  | accepted _ hne _ | refused _ hne _ => simp [hs] at hne
  | delivered message _ hq =>
    refine .inl ⟨?_, fun hsome => ?_⟩
    · simp only [reception, received, Inflight.receive, Inflight.reply?, Inflight.event?, hq]
      rfl
    · simp [Inflight.reply?, hq] at hsome
  | ponged _ => exact .inl ⟨rfl, fun hsome => by cases hsome⟩
  | completed _ id event f _ hp ha =>
    obtain ⟨hr, heq⟩ := reception_of_completion hp ha
    exact .inl ⟨heq.symm, fun hsome => by simp [hr] at hsome⟩

end Rules

/-! ### Sequences of packets -/

/-- A packet that comes in, and what the world adds to its reception. -/
structure Arrival where
  packet : Packet
  now : Int
  fault : Option Error

def Arrival.action (a : Arrival) (attempt : Nat) : Action :=
  ⟨.report attempt (.received a.packet), a.now, a.fault⟩

/-- If there is something to write in a move, the installed transport takes it. -/
def Move.Unhindered (m : Move) : Prop :=
  ∀ reply u v events output, Writes m.start m.action.input reply u v events output →
    u.writeError m.action.fault = none

section Arrivals

variable {s : Session}

theorem yield_of_arrival {a : Arrival} (hs : s.status = .connected)
    (hm : (Move.mk s (a.action s.attempt)).Unhindered) :
    let m := Move.mk s (a.action s.attempt)
    (⟨m.result, m.after, m.events, m.io⟩ : Yield) = (s.atTime a.now).reception a.packet ∧
      ((s.inflight.reply? a.packet).isSome → s.writeError a.fault = none) := by
  intro m
  have htransition : Transition m.start a.fault (.report m.start.attempt (.received a.packet))
      ⟨m.result, m.after, m.events, m.io⟩ := m.transition
  rcases htransition.of_received hs with h | ⟨reply, u, v, events, output, hw, he⟩
  · exact h
  · rw [show u.writeError a.fault = none from hm reply u v events output hw] at he
    cases he

/-- A sequence of packets whose answers are written leaves the connection as it is. -/
theorem arrivals_run (hs : s.status = .connected) (as : List Arrival)
    (hm : ∀ m ∈ s.moves (as.map (·.action s.attempt)), m.Unhindered) :
    let v := s.run (as.map (·.action s.attempt))
    v.status = .connected ∧ v.attempt = s.attempt ∧ v.transport = s.transport ∧
      v.inflight = (as.map Arrival.packet).foldl Inflight.receive s.inflight := by
  induction as generalizing s with
  | nil => exact ⟨hs, rfl, rfl, rfl⟩
  | cons a as ih =>
    rw [List.map_cons, moves_cons] at hm
    have hfirst := (yield_of_arrival hs (hm _ List.mem_cons_self)).1
    have hafter : (Move.mk s (a.action s.attempt)).after = (s.atTime a.now).received a.packet :=
      congrArg Yield.session hfirst
    have hrest := fun m hin => hm m (List.mem_cons_of_mem _ hin)
    dsimp only
    rw [List.map_cons, run_cons]
    rw [hafter] at hrest ⊢
    exact ih hs hrest

/-- What the packet at any place of a sequence finds, and what comes of it. -/
structure Received (s : Session) (earlier : List Packet) (packet : Packet) (m : Move) : Prop where
  inflight : m.before.inflight = earlier.foldl Inflight.receive s.inflight
  events : m.events = (m.before.inflight.event? packet).toList
  packets : m.io.filterMap Io.packet? = (m.before.inflight.reply? packet).toList
  io : ∀ x ∈ m.io, ∃ transport reply, s.transport = some transport ∧ x = .wrote transport reply

theorem received_next (hs : s.status = .connected) (as : List Arrival) (a : Arrival)
    (hm : ∀ m ∈ s.moves (as.map (·.action s.attempt)), m.Unhindered)
    (ha : (Move.mk (s.run (as.map (·.action s.attempt))) (a.action s.attempt)).Unhindered) :
    Received s (as.map Arrival.packet) a.packet
      ⟨s.run (as.map (·.action s.attempt)), a.action s.attempt⟩ := by
  obtain ⟨hst, hattempt, ht, hf⟩ := arrivals_run hs as hm
  -- From here on it matters only that the connection is the same.
  generalize s.run (as.map (·.action s.attempt)) = v at *
  rw [← hattempt] at ha ⊢
  obtain ⟨hyield, hwrite⟩ := yield_of_arrival hst ha
  have hio : (Move.mk v (a.action v.attempt)).io = (v.inflight.reply? a.packet).toList.flatMap
      fun reply => v.transport.toList.map (Io.wrote · reply) := congrArg Yield.io hyield
  refine ⟨hf, congrArg Yield.events hyield, ?_, ?_⟩
  · change _ = (v.inflight.reply? a.packet).toList
    rw [hio]
    cases hr : v.inflight.reply? a.packet with
    | none => rfl
    | some reply =>
      have htransport := transport_of_writeError (hwrite (Option.isSome_of_eq_some hr))
      obtain ⟨transport, htransport'⟩ := Option.isSome_iff_exists.mp htransport
      rw [htransport']
      rfl
  · intro x hx
    rw [hio, ht] at hx
    simp only [List.mem_flatMap, List.mem_map, Option.mem_toList] at hx
    obtain ⟨reply, -, transport, htransport', rfl⟩ := hx
    exact ⟨transport, reply, htransport', rfl⟩

theorem received_getElem (hs : s.status = .connected) (as : List Arrival)
    (hm : ∀ m ∈ s.moves (as.map (·.action s.attempt)), m.Unhindered) (i : Nat)
    (h : i < (s.moves (as.map (·.action s.attempt))).length) (h' : i < as.length) :
    Received s ((as.map Arrival.packet).take i) as[i].packet
      (s.moves (as.map (·.action s.attempt)))[i] := by
  have hget : (s.moves (as.map (·.action s.attempt)))[i] =
      ⟨s.run ((as.take i).map (·.action s.attempt)), as[i].action s.attempt⟩ := by
    rw [s.getElem_moves _ i h (by simpa using h'), List.map_take, List.getElem_map]
  -- The packets before this one met no hindrance either.
  have hearlier := s.moves_prefix_moves (List.take_prefix i (as.map (·.action s.attempt)))
  have hmove := hm _ (List.getElem_mem h)
  rw [← List.map_take] at hearlier ⊢
  rw [hget] at hmove ⊢
  exact received_next hs (as.take i) as[i] (fun m hin => hm m (hearlier.subset hin)) hmove

theorem unhindered_of_reply {a : Arrival}
    (h : (s.inflight.reply? a.packet).isSome → s.writeError a.fault = none) :
    (Move.mk s (a.action s.attempt)).Unhindered := by
  intro reply u v events output hw
  obtain ⟨hr, hu, -⟩ := Writes.reply_eq hw
  rw [writeError, hu]
  exact h (Option.isSome_of_eq_some hr)

theorem unhindered_of_transport (hs : s.status = .connected) (ht : s.transport.isSome)
    (as : List Arrival) (hf : ∀ a ∈ as, a.fault = none) :
    ∀ m ∈ s.moves (as.map (·.action s.attempt)), m.Unhindered := by
  induction as generalizing s with
  | nil => exact fun _ hm => absurd hm List.not_mem_nil
  | cons a as ih =>
    have hfirst : (Move.mk s (a.action s.attempt)).Unhindered := unhindered_of_reply fun _ => by
      rw [writeError, if_pos ht]
      exact hf a List.mem_cons_self
    have hafter : (Move.mk s (a.action s.attempt)).after = (s.atTime a.now).received a.packet :=
      congrArg Yield.session (yield_of_arrival hs hfirst).1
    rw [List.map_cons, moves_cons, hafter]
    intro m hm
    rcases List.mem_cons.mp hm with rfl | hm
    · exact hfirst
    · exact ih (s := (s.atTime a.now).received a.packet) hs ht
        (fun b hb => hf b (List.mem_cons_of_mem _ hb)) m hm

end Arrivals

end Session
end Mqtt
