import Mqtt.Proofs.Answers
import Mqtt.Simulation.Errands

/-!
# Sessions and brokers in a closed loop

A session on an accepted connection to a willing broker, with whatever errands and deliveries in
between. The two stay in step, and nothing is lost on the way: each request that was granted an
identifier has been reported complete, or its completion is under way. So once nothing is under way
any more, which takes finitely many deliveries, everything has been completed.
-/

namespace Mqtt

open Session

theorem Broker.answer_default (p : Packet) : ({} : Broker).answer p = reply p := by
  cases p <;> rfl

namespace Bench

def asked (b : Bench) (errand : Errand) : Option Input :=
  errand.input?.or (b.waiting.head?.map fun p => .report b.session.attempt (.received p))

/-- The actions that errands come to, one after the other. -/
def actions (b : Bench) : List (Errand × Int) → List Session.Action
  | [] => []
  | (errand, now) :: errands =>
    ((b.asked errand).map fun input => ⟨input, now, b.fault input⟩).toList ++
      (b.attend errand now).actions errands

variable {b : Bench}

/-! ### What the far end sees -/

theorem waiting_of_peer {p : Peer} (h : b.peers[b.newest]? = some p) : b.waiting = p.queue := by
  rw [waiting, h]
  rfl

theorem absorb_wrote {t : TransportId} (sent : List Packet) {peers : Array Peer}
    {queue : List Packet} (h : peers[t]? = some ⟨{}, false, queue⟩) :
    let peers' := (sent.map (Io.wrote t)).foldl
      (fun peers io => peers.modify io.transport (·.absorb io)) peers
    peers'.size = peers.size ∧ peers'[t]? = some ⟨{}, false, queue ++ Broker.replies sent⟩ := by
  induction sent generalizing peers queue with
  | nil => exact ⟨rfl, by simpa [Broker.replies] using h⟩
  | cons p sent ih =>
    have hnext : (peers.modify t (·.absorb (.wrote t p)))[t]? =
        some ⟨{}, false, queue ++ (Broker.reply p).toList⟩ := by
      rw [Array.getElem?_modify, if_pos rfl, h]
      simp only [Option.map_some, Peer.absorb, Broker.answer_default]
    obtain ⟨hsize, hlast⟩ := ih hnext
    refine ⟨hsize.trans Array.size_modify, ?_⟩
    rw [Broker.replies, List.flatMap_cons, ← List.append_assoc]
    exact hlast

/-- A bench whose newest transport leads to a willing broker, with these answers waiting. -/
structure Linked (b : Bench) (queue : List Packet) : Prop where
  installed : b.session.transport = some b.newest
  peer : b.peers[b.newest]? = some ⟨{}, false, queue⟩

namespace Linked

variable {queue : List Packet} (h : Linked b queue)
include h

theorem waiting_eq : b.waiting = queue := waiting_of_peer h.peer

theorem setNow (now : Int) : Linked (b.setNow now) queue := ⟨h.installed, h.peer⟩

theorem fault_eq_none {input : Input} (hi : input.opening? = none) : b.fault input = none := by
  have htarget : b.target input = some b.newest := by
    rw [← h.installed]
    unfold target
    split
    · cases hi
    · rfl
  rw [fault, htarget, Option.bind_some, h.peer]
  rfl

theorem perform {input : Input} (hi : input.opening? = none) {sent : List Packet}
    (hcalm : let m : Move := ⟨b.session, input, b.now, none⟩
      Calm b.newest sent ⟨m.result, m.after, m.events, m.io⟩) :
    let m : Move := ⟨b.session, input, b.now, none⟩
    let b' := (b.perform input).2
    b'.session = m.after ∧ b'.events = b.events ++ m.events ∧
      Linked b' (queue ++ Broker.replies sent) := by
  intro m b'
  have hb' : b' = b.absorb m.reply.turn := by
    simp only [b', Bench.perform, h.fault_eq_none hi]
    rfl
  have hio : m.reply.turn.io = sent.map (.wrote b.newest) := hcalm.io
  obtain ⟨hsize, hpeer⟩ := absorb_wrote sent h.peer
  have hpeers : b'.peers = (sent.map (Io.wrote b.newest)).foldl
      (fun peers io => peers.modify io.transport (·.absorb io)) b.peers := by
    rw [hb', ← hio]
    rfl
  have hnewest : b'.newest = b.newest := by
    rw [newest, hpeers, hsize]
    rfl
  have hsession : b'.session = m.after := by rw [hb']; rfl
  refine ⟨hsession, by rw [hb']; rfl, ?_, ?_⟩
  · rw [hsession, hnewest]
    exact hcalm.transport
  · rw [hnewest, hpeers]
    exact hpeer

end Linked

def pop (b : Bench) (rest : List Packet) : Bench :=
  { b with peers := b.peers.modify b.newest fun p => { p with queue := rest } }

@[simp] theorem newest_pop (rest : List Packet) : (b.pop rest).newest = b.newest := by
  rw [newest, pop, Array.size_modify]
  rfl

theorem Linked.pop {queue : List Packet} (h : Linked b queue) (rest : List Packet) :
    Linked (b.pop rest) rest := by
  refine ⟨?_, ?_⟩
  · rw [newest_pop]
    exact h.installed
  · rw [newest_pop, Bench.pop, Array.getElem?_modify, if_pos rfl, h.peer]
    rfl

theorem deliverUpTo_one {p : Packet} {rest : List Packet} (h : b.waiting = p :: rest) :
    ∃ failures, deliverUpTo 1 b =
      { ((b.pop rest).perform (.report b.session.attempt (.received p))).2 with
        failures := failures } := by
  cases hr : (b.pop rest).perform (.report b.session.attempt (.received p)) with
  | mk result b' =>
    unfold pop at hr
    simp only [deliverUpTo, h, hr]
    cases result with
    | ok _ => exact ⟨b'.failures, rfl⟩
    | error e => exact ⟨b'.failures ++ [e], rfl⟩

theorem deliverUpTo_nil (h : b.waiting = []) (n : Nat) : deliverUpTo n b = b := by
  cases n with
  | zero => rfl
  | succ n => rw [deliverUpTo, h]

theorem workload_pos (p : Packet) : 0 < workload p := by
  cases p <;> simp [workload]

/-! ### In the loop -/

/-- Session and broker in a closed loop, after some moves. -/
structure Looped (b : Bench) (ms : List Move) : Prop where
  books : Bookkeeping b.session
  connected : b.session.status = .connected
  linked : Linked b b.waiting
  inStep : InStep b.session b.waiting
  owed : ∀ id, promised id ms = settlements id ms ++ owed id b.waiting

namespace Looped

variable {ms : List Move} (h : Looped b ms)
include h

theorem next {b' : Bench} {m : Move} {rest sent : List Packet} (hm : m.before = b.session)
    (hs : b'.session = m.after) (hl : Linked b' (rest ++ Broker.replies sent))
    (hk : Keeps b.newest m.action.input b.waiting rest sent
      ⟨m.result, m.after, m.events, m.io⟩) :
    Looped b' (ms ++ [m]) := by
  have hqueue := hl.waiting_eq
  refine ⟨?_, ?_, ?_, ?_, ?_⟩
  · rw [hs]
    exact m.bookkeeping (by rw [hm]; exact h.books)
  · rw [hs]
    exact hk.calm.status
  · rw [hqueue]
    exact hl
  · rw [hs, hqueue]
    exact hk.inStep
  · intro id
    have hlast : promised id [m] = (promisedBy m.action.input m.result id).toList := by
      rw [promised_cons]
      exact List.append_nil _
    have hsettled : settlements id [m] = settling id m.events := by
      rw [settlements_cons]
      exact List.append_nil _
    rw [promised_append, settlements_append, h.owed, hlast, hsettled, hqueue, List.append_assoc,
      hk.owed, List.append_assoc]

theorem request {errand : Errand} {input : Input} (hi : errand.input? = some input) (now : Int) :
    let m : Move := ⟨b.session, input, now, none⟩
    let b' := b.attend errand now
    b'.session = m.after ∧ b'.events = b.events ++ m.events ∧ Looped b' (ms ++ [m]) := by
  intro m b'
  have hinput : input = .service ∨ ∃ q, input = .request q ∧ q ≠ .disconnect := by
    cases errand <;> cases hi
    case service => exact .inl rfl
    all_goals exact .inr ⟨_, rfl, nofun⟩
  have hopening : input.opening? = none := by
    rcases hinput with rfl | ⟨q, rfl, -⟩ <;> rfl
  have hstart : InStep m.start b.waiting := h.inStep.congr fun _ => rfl
  obtain ⟨sent, hk⟩ := hstart.asked m.transition (h.books.atTime now) h.connected
    h.linked.installed hinput
  have hb' : b' = ((b.setNow now).perform input).2 := by
    simp only [b', attend, hi]
  obtain ⟨hs, hevents, hl⟩ := (h.linked.setNow now).perform hopening hk.calm
  rw [← hb'] at hs hevents hl
  exact ⟨hs, hevents, h.next rfl hs hl hk⟩

theorem deliver {p : Packet} {rest : List Packet} (hw : b.waiting = p :: rest) (now : Int) :
    let m : Move := ⟨b.session, .report b.session.attempt (.received p), now, none⟩
    let b' := b.attend .deliver now
    b'.session = m.after ∧ b'.events = b.events ++ m.events ∧ Looped b' (ms ++ [m]) ∧
      load b'.waiting + 1 = load b.waiting := by
  intro m b'
  have hstart : InStep m.start (p :: rest) := by
    rw [← hw]
    exact h.inStep.congr fun _ => rfl
  have hlinked : Linked ((b.setNow now).pop rest) rest := (h.linked.setNow now).pop rest
  obtain ⟨sent, hf⟩ := hstart.forwards m.transition (h.books.atTime now) h.connected
    hlinked.installed
  obtain ⟨hs, hevents, hl⟩ := hlinked.perform rfl hf.calm
  obtain ⟨failures, hb'⟩ := deliverUpTo_one (b := b.setNow now) hw
  have hs' : b'.session = m.after := by
    rw [show b' = _ from hb']
    exact hs
  have hk : Keeps b.newest m.action.input b.waiting rest sent
      ⟨m.result, m.after, m.events, m.io⟩ := by
    rw [hw, ← show ((b.setNow now).pop rest).newest = b.newest from newest_pop rest]
    exact hf.toKeeps
  have hl' : Linked b' (rest ++ Broker.replies sent) := by
    rw [show b' = _ from hb']
    exact ⟨hl.installed, hl.peer⟩
  refine ⟨hs', ?_, h.next rfl hs' hl' hk, ?_⟩
  · rw [show b' = _ from hb']
    exact hevents
  · rw [hl'.waiting_eq, hw]
    exact hf.load

theorem attend (errand : Errand) (now : Int) :
    let as := ((b.asked errand).map fun input => Session.Action.mk input now (b.fault input)).toList
    let b' := b.attend errand now
    b'.session = b.session.run as ∧
      b'.events = b.events ++ (b.session.moves as).flatMap Move.events ∧
      Looped b' (ms ++ b.session.moves as) ∧
      (errand = .deliver → load b'.waiting = load b.waiting - 1) := by
  intro as b'
  cases hi : errand.input? with
  | some input =>
    have hopening : input.opening? = none := by cases errand <;> cases hi <;> rfl
    have has : as = [⟨input, now, none⟩] := by
      simp only [as, asked, hi, Option.some_or, Option.map_some, Option.toList_some,
        h.linked.fault_eq_none hopening]
    obtain ⟨hs, hevents, hl⟩ := h.request hi now
    rw [has]
    refine ⟨hs, ?_, hl, fun he => ?_⟩
    · rw [hevents]
      simp [moves_cons]
    · rw [he] at hi
      cases hi
  | none =>
    obtain rfl : errand = .deliver := by
      cases errand with
      | deliver => rfl
      | publish _ | subscribe _ | unsubscribe _ | ping | service => cases hi
    cases hw : b.waiting with
    | nil =>
      have has : as = [] := by simp only [as, asked, hi, hw]; rfl
      have hb' : b' = b.setNow now := deliverUpTo_nil (b := b.setNow now) hw 1
      rw [has, hb']
      refine ⟨rfl, (List.append_nil _).symm, ?_, fun _ => ?_⟩
      · rw [moves_nil, List.append_nil]
        exact ⟨h.books, h.connected, h.linked.setNow now, h.inStep, h.owed⟩
      · rw [show (b.setNow now).waiting = [] from hw]
        rfl
    | cons p rest =>
      have has : as = [⟨.report b.session.attempt (.received p), now, none⟩] := by
        simp only [as, asked, hi, hw, Option.none_or, List.head?_cons, Option.map_some,
          Option.toList_some]
        rw [h.linked.fault_eq_none rfl]
      obtain ⟨hs, hevents, hl, hload⟩ := h.deliver hw now
      rw [has]
      refine ⟨hs, ?_, hl, fun _ => ?_⟩
      · rw [hevents]
        simp [moves_cons]
      · rw [← hw, ← hload]
        rfl

theorem attendAll (errands : List (Errand × Int)) :
    let c := b.attendAll errands
    let as := b.actions errands
    c.session = b.session.run as ∧
      c.events = b.events ++ (b.session.moves as).flatMap Move.events ∧
      Looped c (ms ++ b.session.moves as) := by
  induction errands generalizing b ms with
  | nil => exact ⟨rfl, (List.append_nil _).symm, by simpa [Bench.attendAll, actions] using h⟩
  | cons e errands ih =>
    obtain ⟨errand, now⟩ := e
    obtain ⟨hs, hevents, hl, -⟩ := h.attend errand now
    obtain ⟨hs', hevents', hl'⟩ := ih hl
    rw [hs] at hs' hevents' hl'
    simp only [actions, run_append, moves_append]
    refine ⟨hs', ?_, ?_⟩
    · rw [List.flatMap_append, ← List.append_assoc, ← hevents]
      exact hevents'
    · rw [← List.append_assoc]
      exact hl'

/-- At every time during some errands, some of them have just been attended to. -/
theorem exists_errands {errands : List (Errand × Int)} {earlier : List Move}
    (hp : earlier <+: b.session.moves (b.actions errands)) :
    ∃ es, b.session.moves (b.actions es) = earlier := by
  induction errands generalizing b ms earlier with
  | nil => exact ⟨[], (List.prefix_nil.mp hp).symm⟩
  | cons e errands ih =>
    obtain ⟨errand, now⟩ := e
    obtain ⟨hs, -, hl, -⟩ := h.attend errand now
    -- An errand comes to one action at most, and to none if there is nothing to deliver.
    cases hi : b.asked errand with
    | none =>
      rw [hi] at hs
      simp only [actions, hi, Option.map_none, Option.toList_none, List.nil_append] at hp
      rw [show b.session = (b.attend errand now).session from hs.symm] at hp
      obtain ⟨es, hes⟩ := ih hl hp
      refine ⟨(errand, now) :: es, ?_⟩
      simp only [actions, hi, Option.map_none, Option.toList_none, List.nil_append]
      rw [show b.session = (b.attend errand now).session from hs.symm]
      exact hes
    | some input =>
      cases earlier with
      | nil => exact ⟨[], rfl⟩
      | cons m earlier =>
        rw [hi] at hs
        simp only [actions, hi, Option.map_some, Option.toList_some, List.singleton_append,
          moves_cons, List.cons_prefix_cons] at hp
        obtain ⟨rfl, hp⟩ := hp
        rw [show (Move.mk b.session _).after = (b.attend errand now).session from hs.symm] at hp
        obtain ⟨es, hes⟩ := ih hl hp
        refine ⟨(errand, now) :: es, ?_⟩
        simp only [actions, hi, Option.map_some, Option.toList_some, List.singleton_append,
          moves_cons]
        rw [show (Move.mk b.session _).after = (b.attend errand now).session from hs.symm, hes]

/-- Deliveries alone come to an end, for each leaves less to do. -/
theorem waiting_eq_nil (times : List Int) (hload : load b.waiting ≤ times.length) :
    (b.attendAll (times.map (Errand.deliver, ·))).waiting = [] := by
  induction times generalizing b ms with
  | nil =>
    cases hw : b.waiting with
    | nil => exact hw
    | cons p rest =>
      have hpos := Bench.workload_pos p
      rw [hw] at hload
      change workload p + load rest ≤ 0 at hload
      omega
  | cons now times ih =>
    obtain ⟨-, -, hl, hless⟩ := h.attend .deliver now
    apply ih hl
    rw [hless rfl]
    rw [List.length_cons] at hload
    omega

end Looped

theorem deliverUpTo_succ (n : Nat) (b : Bench) :
    deliverUpTo (n + 1) b = deliverUpTo n (deliverUpTo 1 b) := by
  cases h : b.waiting with
  | nil => rw [deliverUpTo_nil h, deliverUpTo_nil h, deliverUpTo_nil h]
  | cons p rest => simp only [deliverUpTo, h]

theorem now_deliverUpTo_one (b : Bench) : (deliverUpTo 1 b).now = b.now := by
  cases h : b.waiting with
  | nil => rw [deliverUpTo_nil h]
  | cons p rest =>
    obtain ⟨failures, hd⟩ := deliverUpTo_one h
    rw [hd]
    rfl

theorem deliverUpTo_eq_attendAll (n : Nat) (b : Bench) :
    deliverUpTo n b = b.attendAll ((List.replicate n b.now).map (Errand.deliver, ·)) := by
  induction n generalizing b with
  | zero => rfl
  | succ n ih =>
    rw [deliverUpTo_succ, ih, now_deliverUpTo_one]
    rfl

/-! ### From the start -/

/-- A bench right after its connection was accepted: its newest transport leads to a willing broker,
and nothing is pending or under way. -/
structure Ready (b : Bench) : Prop where
  reached : ∃ o as, b.session = (new o).run as
  connected : b.session.status = .connected
  installed : b.session.transport = some b.newest
  willing : b.peers[b.newest]? = some ⟨{}, false, []⟩
  idle : b.session.inflight.pendingCount = 0

theorem Ready.looped (h : Ready b) : Looped b [] := by
  obtain ⟨o, as, hreached⟩ := h.reached
  have hbooks : Bookkeeping b.session := by
    rw [hreached]
    exact bookkeeping_run o as
  have hl : Linked b [] := ⟨h.installed, h.willing⟩
  have hw := hl.waiting_eq
  refine ⟨hbooks, h.connected, by rw [hw]; exact hl, ?_, fun id => by rw [hw]; rfl⟩
  rw [hw]
  refine ⟨nofun, fun id => ?_⟩
  have hnone := hbooks.orderly.pendingCount_eq_zero_iff.mp h.idle id
  rw [(Inflight.awaits_eq_nil_iff _ _).mpr hnone]
  rfl

/-- Each identifier is bound, and the one answer that its operation waits for is under way; or it is
free, and nothing is under way for it. -/
theorem Looped.one_to_one {ms : List Move} (h : Looped b ms) (id : UInt16) :
    (∃ p e, b.session.ids.isBound id = true ∧ acksUnder id b.waiting = [p] ∧
      (b.session.inflight.awaits id).head? = some p.kind ∧ p.foretells? = some e ∧
      promised id ms = settlements id ms ++ [e]) ∨
    b.session.ids.isBound id = false ∧ acksUnder id b.waiting = [] ∧
      promised id ms = settlements id ms := by
  have howed := h.owed id
  have hkinds := h.inStep.kinds id
  have hbound := h.books.isBound_eq id
  cases ha : b.session.inflight.awaits id with
  | nil =>
    have hnone := h.inStep.acksUnder_eq_nil ha
    rw [(Inflight.awaits_eq_nil_iff _ _).mp ha] at hbound
    rw [owed_eq_nil hnone, List.append_nil] at howed
    exact .inr ⟨hbound, hnone, howed⟩
  | cons kind later =>
    rw [ha] at hkinds
    obtain ⟨p, hp, hkind⟩ := List.map_eq_singleton_iff.mp hkinds
    obtain ⟨kind', hk⟩ := ack?_of_mem_acksUnder (hp ▸ List.mem_singleton_self p)
    obtain ⟨e, he⟩ := Packet.exists_foretells? hk
    have hpending : (b.session.inflight.operation? id).isSome := by
      rw [Option.isSome_iff_ne_none, ne_eq, ← Inflight.awaits_eq_nil_iff, ha]
      exact List.cons_ne_nil _ _
    refine .inl ⟨p, e, hbound.trans hpending, hp, congrArg some hkind.symm, he, ?_⟩
    rw [howed, Session.owed, hp]
    simp [he]

theorem Looped.settled_of_granted (h : Looped b []) {errands : List (Errand × Int)}
    {earlier later : List Move} {m : Move}
    (hm : b.session.moves (b.actions errands) = earlier ++ m :: later) {id : UInt16}
    (hg : m.granted? = some id) :
    Bookkeeping m.before ∧ promised id earlier = settlements id earlier := by
  obtain ⟨es, hes⟩ := h.exists_errands ⟨m :: later, hm.symm⟩
  obtain ⟨hs, -, hl⟩ := h.attendAll es
  obtain ⟨bs, -, -, hbefore, hbs, -⟩ := later_eq_moves hm
  have hactions : b.actions es = bs := by
    rw [← b.session.map_action_moves (b.actions es), hes, hbs, map_action_moves]
  have hsession : (b.attendAll es).session = m.before := by rw [hs, hactions, hbefore]
  have hbooks : Bookkeeping m.before := by
    rw [← hsession]
    exact hl.books
  refine ⟨hbooks, ?_⟩
  rcases hl.one_to_one id with ⟨p, e, hbound, -⟩ | ⟨-, -, hpromised⟩
  · have hfree := hbooks.isBound_eq id
    rw [Move.operation?_of_granted hbooks hg, ← hsession, hbound] at hfree
    cases hfree
  · rw [List.nil_append, hes] at hpromised
    exact hpromised

/-- A session in a closed loop with a willing broker, from a connection that was just accepted and
through any errands. At every time the operations that are pending and the answers under way
correspond one to one, each answer being the one that its operation waits for next, and what has
been completed of each identifier is what was promised, but for what is under way. Deliveries alone
come to an end. Then no identifier is bound and nothing is pending, and each request that was
granted an identifier has been completed exactly once before that was granted again, if it was. -/
theorem closed_loop_completes (b : Bench) (h : b.Ready) (errands : List (Errand × Int)) :
    let c := b.attendAll errands
    let as := b.actions errands
    let ms := b.session.moves as
    (c.session = b.session.run as ∧ c.events = b.events ++ ms.flatMap Move.events) ∧
    (∀ p ∈ c.waiting, p = .pingresp ∨ p.ack?.isSome) ∧
    (∀ id,
      (∃ p e, c.session.ids.isBound id = true ∧ acksUnder id c.waiting = [p] ∧
        (c.session.inflight.awaits id).head? = some p.kind ∧ p.foretells? = some e ∧
        promised id ms = settlements id ms ++ [e]) ∨
      c.session.ids.isBound id = false ∧ acksUnder id c.waiting = [] ∧
        promised id ms = settlements id ms) ∧
    ((∀ times : List Int, load c.waiting ≤ times.length →
        (c.attendAll (times.map (Errand.deliver, ·))).waiting = []) ∧
      ∃ deliveries, c.deliver = c.attendAll deliveries ∧ c.deliver.waiting = []) ∧
    (c.waiting = [] → (∀ id, c.session.ids.isBound id = false) ∧
      c.session.inflight.pendingCount = 0 ∧ (∀ id, settlements id ms = promised id ms) ∧
      ∀ earlier m window later, ms = earlier ++ m :: (window ++ later) → ∀ id e,
        promisedBy m.action.input m.result id = some e → Ungranted id window →
        (∀ m' ∈ later.head?, m'.granted? = some id) → settlements id window = [e]) := by
  intro c as ms
  obtain ⟨hs, hevents, hl⟩ := h.looped.attendAll errands
  refine ⟨⟨hs, hevents⟩, hl.inStep.acks, hl.one_to_one, ⟨hl.waiting_eq_nil, ?_⟩, ?_⟩
  · refine ⟨_, deliverUpTo_eq_attendAll (load c.waiting) c, ?_⟩
    change (deliverUpTo (load c.waiting) c).waiting = []
    rw [deliverUpTo_eq_attendAll]
    exact hl.waiting_eq_nil _ (by rw [List.length_replicate])
  · intro hw
    have hfree : ∀ id, c.session.ids.isBound id = false ∧ promised id ms = settlements id ms := by
      intro id
      rcases hl.one_to_one id with ⟨p, e, -, hp, -⟩ | ⟨hbound, -, hpromised⟩
      · rw [hw] at hp
        cases hp
      · exact ⟨hbound, hpromised⟩
    have hnone : ∀ id, c.session.inflight.operation? id = none := by
      intro id
      have hbound := hl.books.isBound_eq id
      rw [(hfree id).1] at hbound
      exact Option.isNone_iff_eq_none.mp (Option.isSome_eq_false_iff.mp hbound.symm)
    refine ⟨fun id => (hfree id).1, hl.books.orderly.pendingCount_eq_zero_iff.mpr hnone,
      fun id => (hfree id).2.symm, ?_⟩
    intro earlier m window later hm id e hp hn hnext
    obtain ⟨hbooks, hbefore⟩ := h.looped.settled_of_granted hm (granted_of_promisedBy hp)
    refine kept_of_promised hbooks hbefore ?_ hp hn
    cases later with
    | nil =>
      rw [List.append_nil] at hm
      rw [← hm]
      exact (hfree id).2
    | cons m' later =>
      have hm' : ms = (earlier ++ m :: window) ++ m' :: later := by rw [hm]; simp
      exact (h.looped.settled_of_granted hm' (hnext m' rfl)).2

/-- A connection that is accepted, used, and left to come to rest. -/
theorem closed_loop_completes_accepted :
    let opened := (Bench.addPeer { session := new {} } false).2
    let b := ((opened.run (.startConnect "")).2.run (.report 1 (.opened 0))).2
    let errands : List (Errand × Int) :=
      [(.publish ⟨0, "a", .exactlyOnce, false, false, .empty⟩, 1),
        (.subscribe ⟨0, [⟨"b", .atLeastOnce⟩]⟩, 2), (.deliver, 3)]
    let c := b.attendAll errands
    b.Ready ∧ c.waiting = [.suback ⟨2, [.granted .atLeastOnce]⟩, .pubcomp 1] ∧
      c.deliver.waiting = [] := by
  intro opened b errands c
  have hready : b.Ready := by
    refine ⟨⟨{}, [⟨.startConnect "", 0, none⟩, ⟨.report 1 (.opened 0), 0, none⟩,
      ⟨.report 1 (.received (.connack ⟨false, .accepted⟩)), 0, none⟩], ?_⟩, ?_, ?_, ?_, ?_⟩
    · simp only [b, opened]
      rfl
    · simp only [b, opened]
      decide +kernel
    · simp only [b, opened]
      decide +kernel
    · simp only [b, opened]
      decide +kernel
    · simp only [b, opened]
      decide +kernel
  have hwaiting : c.waiting = [.suback ⟨2, [.granted .atLeastOnce]⟩, .pubcomp 1] := by
    simp only [c, b, opened, errands]
    decide +kernel
  obtain ⟨-, -, -, ⟨-, deliveries, -, hempty⟩, -⟩ := closed_loop_completes b hready errands
  exact ⟨hready, hwaiting, hempty⟩

end Bench
end Mqtt
