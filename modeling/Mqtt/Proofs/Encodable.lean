import Mqtt.Proofs.Identity
import Mqtt.Proofs.Outbound
import Mqtt.Proofs.TopicGrammar

/-!
# Which CONNECTs can be encoded

A text or a byte string is written with its length before it, in two bytes, so that 65535 bytes are
the most that it can have. Of the fields of a CONNECT, those of the will are checked when a client is
built, and a client identifier that is generated is short. The client identifier, the user name and
the password of the options are not checked: a client writes CONNECTs that can be encoded if all
three fit, and no others if one of them does not.
-/

namespace Mqtt

open Session

/-- The fields of a CONNECT that are written with their length before them. -/
inductive Connect.Field
  | clientId
  | willTopic
  | willPayload
  | username
  | password

namespace Connect

def size? (c : Connect) : Field → Option Nat
  | .clientId => some c.clientId.utf8ByteSize
  | .willTopic => c.will.map (·.topic.utf8ByteSize)
  | .willPayload => c.will.map (·.payload.size)
  | .username => c.username.map (·.utf8ByteSize)
  | .password => c.password.map (·.size)

def Fits (c : Connect) (field : Field) : Prop := ∀ n ∈ c.size? field, n ≤ Topic.maxFieldBytes

def Encodable (c : Connect) : Prop := ∀ field, c.Fits field

end Connect

/-- What a CONNECT needs of the options besides a proper will. -/
structure ConnectOptions.Fit (o : ConnectOptions) : Prop where
  clientId : o.clientId.utf8ByteSize ≤ Topic.maxFieldBytes
  username : ∀ username ∈ o.username, username.utf8ByteSize ≤ Topic.maxFieldBytes
  password : ∀ password ∈ o.password, password.size ≤ Topic.maxFieldBytes

/-! ### Fields -/

theorem utf8ByteSize_le (s : String) : s.utf8ByteSize ≤ 4 * s.length := by
  have hchars : ∀ cs : List Char, (String.ofList cs).utf8ByteSize ≤ 4 * cs.length := by
    intro cs
    induction cs with
    | nil => exact Nat.zero_le _
    | cons c cs ih =>
      have hc := c.utf8Size_le_four
      rw [Topic.utf8ByteSize_ofList_cons, List.length_cons]
      omega
  calc s.utf8ByteSize = (String.ofList s.toList).utf8ByteSize := by rw [String.ofList_toList]
    _ ≤ 4 * s.toList.length := hchars s.toList
    _ = 4 * s.length := by rw [String.length_toList]

theorem utf8ByteSize_replicate (n : Nat) (c : Char) :
    (String.ofList (List.replicate n c)).utf8ByteSize = n * c.utf8Size := by
  induction n with
  | zero => simp
  | succ n ih =>
    rw [List.replicate_succ, Topic.utf8ByteSize_ofList_cons, ih, Nat.succ_mul, Nat.add_comm]

theorem Will.Proper.size_topic_le {w : Will} (h : w.Proper) :
    w.topic.utf8ByteSize ≤ Topic.maxFieldBytes :=
  ((Topic.hasLegalLength_iff _).mp ((Topic.checkName_eq_ok_iff _).mp h.1).1).2

namespace ConnectOptions

variable {o : ConnectOptions} {clientId : String}

theorem fits_will (hwill : ∀ will, o.will = some will → will.Proper) (clientId : String) :
    (o.connectPacket clientId).Fits .willTopic ∧ (o.connectPacket clientId).Fits .willPayload := by
  constructor
  · intro n hn
    obtain ⟨will, hw, rfl⟩ := Option.map_eq_some_iff.mp hn
    exact (hwill will hw).size_topic_le
  · intro n hn
    obtain ⟨will, hw, rfl⟩ := Option.map_eq_some_iff.mp hn
    exact (hwill will hw).2

theorem fits_clientId_iff (hid : clientId = o.clientId ∨
    o.clientId = "" ∧ clientId.utf8ByteSize ≤ Topic.maxFieldBytes) :
    (o.connectPacket clientId).Fits .clientId ↔
      o.clientId.utf8ByteSize ≤ Topic.maxFieldBytes := by
  have hfits : (o.connectPacket clientId).Fits .clientId ↔
      clientId.utf8ByteSize ≤ Topic.maxFieldBytes := by
    simp [Connect.Fits, Connect.size?, connectPacket]
  rw [hfits]
  rcases hid with rfl | ⟨hempty, hle⟩
  · rfl
  · simp [hempty, hle]

theorem encodable_connectPacket_iff (hwill : ∀ will, o.will = some will → will.Proper)
    (hid : clientId = o.clientId ∨
      o.clientId = "" ∧ clientId.utf8ByteSize ≤ Topic.maxFieldBytes) :
    (o.connectPacket clientId).Encodable ↔ o.Fit := by
  constructor
  · intro h
    refine ⟨(fits_clientId_iff hid).mp (h .clientId), fun username hu => ?_, fun password hp => ?_⟩
    · exact h .username _ (Option.mem_map_of_mem _ hu)
    · exact h .password _ (Option.mem_map_of_mem _ hp)
  · intro h field
    cases field with
    | clientId => exact (fits_clientId_iff hid).mpr h.clientId
    | willTopic => exact (fits_will hwill clientId).1
    | willPayload => exact (fits_will hwill clientId).2
    | username =>
      intro n hn
      obtain ⟨username, hu, rfl⟩ := Option.map_eq_some_iff.mp hn
      exact h.username username hu
    | password =>
      intro n hn
      obtain ⟨password, hp, rfl⟩ := Option.map_eq_some_iff.mp hn
      exact h.password password hp

end ConnectOptions

/-! ### Client identifiers -/

theorem Session.clientId_run_eq_or (o : ConnectOptions) (as : List Action) :
    ((new o).run as).clientId = o.clientId ∨
      o.clientId = "" ∧ ∃ a ∈ as, a.input = .startConnect ((new o).run as).clientId := by
  induction as using List.reverseRecOn with
  | nil => exact .inl rfl
  | append_singleton as a ih =>
    rw [run_concat]
    rcases (Move.mk ((new o).run as) a).transition.clientId_eq_or with ⟨hsame, -⟩ | ⟨hu, hin, -⟩
    · have hsame : (Move.mk ((new o).run as) a).after.clientId = ((new o).run as).clientId := hsame
      rw [hsame]
      refine ih.imp_right fun ⟨hempty, b, hb, hbin⟩ => ?_
      exact ⟨hempty, b, List.mem_append_left _ hb, hbin⟩
    · refine .inr ⟨?_, a, List.mem_append_right _ (List.mem_singleton_self a), hin⟩
      have hnone : ((new o).run as).clientId = "" := hu.1
      exact ih.elim (fun h => h.symm.trans hnone) And.left

/-! ### The first CONNECT -/

theorem Session.startConnect_new (o : ConnectOptions) (generated : String) (now : Int) :
    let t := ((Session.new o).startConnect generated now).turn
    t.events = [] ∧ t.session.status = .connecting ∧ t.session.attempt = 1 := by
  unfold Session.startConnect Turn.startConnect Turn.chooseClientId
  rw [if_neg (by simp [Turn.start, Session.new])]
  split <;> exact ⟨rfl, rfl, rfl⟩

theorem Session.Transition.io_of_opened {s : Session} {t : TransportId} {y : Yield}
    (h : Transition s none (.report s.attempt (.opened t)) y) (hs : s.status = .connecting) :
    y.io = [.wrote t (.connect (s.options.connectPacket s.clientId))] := by
  cases h with
  | wrote hw ht _ =>
    cases hw with
    | connect _ _ =>
      cases ht
      rfl
  | writeFailed hw he =>
    cases hw with
    | connect _ _ => simp [Session.writeError, install] at he
  | discarded _ _ hd => exact hd.elim (absurd rfl) (absurd hs)
  | idle hi =>
    cases hi with
    | staleReport _ _ _ hr => exact absurd rfl (hr t)

namespace Client

theorem perform_beginConnect_new (options : ClientOptions) (env : Env) :
    let s := ((new options).perform ⟨.beginConnect, env⟩).client.session
    s.status = .connecting ∧ s.attempt = 1 := by
  obtain ⟨hevents, hstatus, hattempt⟩ := startConnect_new options.connect env.freshId env.now
  let r := (new options).roundIn env
  obtain ⟨log, hlog⟩ := Activity.beginConnect.perform_eq r
  have hqueue : (Activity.beginConnect.begin r).client.queue = [] := hevents
  have hsettle : (Activity.beginConnect.begin r).settle = Activity.beginConnect.begin r := by
    simp [Round.settle, hqueue]
  have hperform : (new options).perform ⟨.beginConnect, env⟩ =
      { Activity.beginConnect.begin r with log := log } := by
    rw [← hsettle]
    exact hlog
  rw [hperform]
  exact ⟨hstatus, hattempt⟩

theorem wrote_of_finishConnect {c : Client} {env : Env} {t : TransportId}
    (hs : c.session.status = .connecting) (hf : env.fault t = none) :
    .wrote t (.connect (c.session.options.connectPacket c.session.clientId)) ∈
      (c.perform ⟨.finishConnect c.session.attempt (.ok t), env⟩).io := by
  let a : Action := ⟨.report c.session.attempt (.opened t), env.now, none⟩
  let d : Deed := ⟨c, .finishConnect c.session.attempt (.ok t), env⟩
  obtain ⟨bs, -, hasks, -⟩ := d.exists_asks
  have hown : d.own = [a] := by
    simp only [a, ← hf]
    rfl
  have hio : (Move.mk c.session a).io = _ := (Move.mk c.session a).transition.io_of_opened hs
  have hround : (c.perform d.occasion).io = (c.session.moves (a :: bs)).flatMap Move.io := by
    rw [hown] at hasks
    exact hasks.io
  rw [hround, moves_cons, List.flatMap_cons, hio]
  exact List.mem_append_left _ (List.mem_singleton_self _)

theorem exists_connect (options : ClientOptions) {env : Env} (h : env.fault 0 = none) :
    ∃ packet, .wrote 0 (.connect packet) ∈
      ((new options).deeds [⟨.beginConnect, env⟩, ⟨.finishConnect 1 (.ok 0), env⟩]).flatMap
        (·.round.io) := by
  obtain ⟨hs, ha⟩ := perform_beginConnect_new options env
  have hwrote := wrote_of_finishConnect hs h
  rw [ha] at hwrote
  exact ⟨_, List.mem_flatMap.mpr ⟨_, List.mem_cons_of_mem _ (List.mem_singleton_self _), hwrote⟩⟩

/-! ### All CONNECTs -/

/-- A CONNECT is made of the options, under their client identifier or a generated one. -/
theorem connect_of_deeds {options : ClientOptions} {os : List Occasion} {x : Io} {packet : Connect}
    (hx : x ∈ ((new options).deeds os).flatMap (·.round.io))
    (ha : x.attempted? = some (.connect packet)) :
    ∃ clientId, packet = options.connect.connectPacket clientId ∧
      (clientId = options.connect.clientId ∨
        options.connect.clientId = "" ∧ ∃ o ∈ os, clientId = o.env.freshId) := by
  obtain ⟨as, -, hio, -, hgenerated⟩ := (new options).exists_asked_generated os
  rw [hio] at hx
  obtain ⟨m, hm, hxm⟩ := List.mem_flatMap.mp hx
  obtain ⟨bs, cs, rfl, hb⟩ := of_mem_moves hm
  obtain ⟨-, hp⟩ := Move.of_connect hxm ha
  have hb : m.before = (Session.new options.connect).run bs := hb
  rw [hb, options_run] at hp
  refine ⟨_, hp, (clientId_run_eq_or options.connect bs).imp_right ?_⟩
  rintro ⟨hempty, a, hin, hstart⟩
  exact ⟨hempty, hgenerated a (List.mem_append_left _ hin) _ hstart⟩

/-- In every CONNECT that a transport is handed by a client that was built, the fields of the will
fit; the whole can be encoded exactly if the client identifier, the user name and the password of
the options fit. A client is built whether they do or not, and can come to write a CONNECT. -/
theorem connect_encodable_iff {options : ClientOptions} {c : Client}
    (hc : (build options).1 = .ok c) :
    (∀ os : List Occasion, (∀ o ∈ os, o.env.freshId.length = 36) →
      ∀ x ∈ (c.deeds os).flatMap (·.round.io), ∀ packet, x.attempted? = some (.connect packet) →
        packet.Fits .willTopic ∧ packet.Fits .willPayload ∧
          (packet.Encodable ↔ options.connect.Fit)) ∧
    ∃ os : List Occasion, (∀ o ∈ os, o.env.freshId.length = 36) ∧
      ∃ packet, .wrote 0 (.connect packet) ∈ (c.deeds os).flatMap (·.round.io) := by
  obtain ⟨rfl, hwill⟩ := build_eq_ok hc
  constructor
  · intro os hids x hx packet ha
    obtain ⟨clientId, rfl, hid⟩ := connect_of_deeds hx ha
    have hshort : clientId = options.connect.clientId ∨
        options.connect.clientId = "" ∧ clientId.utf8ByteSize ≤ Topic.maxFieldBytes := by
      refine hid.imp_right ?_
      rintro ⟨hempty, o, ho, rfl⟩
      have hle := utf8ByteSize_le o.env.freshId
      rw [hids o ho] at hle
      exact ⟨hempty, hle.trans (by decide)⟩
    obtain ⟨htopic, hpayload⟩ := ConnectOptions.fits_will hwill clientId
    exact ⟨htopic, hpayload, ConnectOptions.encodable_connectPacket_iff hwill hshort⟩
  · let env : Env := ⟨0, "00000000-0000-4000-8000-000000000000", fun _ => none⟩
    refine ⟨[⟨.beginConnect, env⟩, ⟨.finishConnect 1 (.ok 0), env⟩], ?_, exists_connect options rfl⟩
    simp only [List.forall_mem_cons, env]
    decide

/-- A user name that is a byte too long: the client is built, and writes it. -/
theorem connect_encodable_iff_long_username :
    let username := String.ofList (List.replicate 65536 'u')
    let options : ClientOptions := { host := "broker", connect := { username := some username } }
    (build options).1 = .ok (new options) ∧
      ∃ os packet, .wrote 0 (.connect packet) ∈ ((new options).deeds os).flatMap (·.round.io) ∧
        ¬packet.Encodable := by
  intro username options
  have hbuild : (build options).1 = .ok (new options) := rfl
  have hsize : username.utf8ByteSize = 65536 := utf8ByteSize_replicate 65536 'u'
  obtain ⟨hall, os, hids, packet, hin⟩ := connect_encodable_iff hbuild
  refine ⟨hbuild, os, packet, hin, fun hencodable => ?_⟩
  have hfit := ((hall os hids _ hin packet rfl).2.2.mp hencodable).username username rfl
  rw [hsize] at hfit
  exact absurd hfit (by decide)

end Client

end Mqtt
