import Mqtt.Proofs.WriteFailure

/-!
# Requests that are refused

What a request asks for may be malformed, out of place, or impossible because no identifier is left.
`Session.refusal?` puts these reasons in order. An operation that is refused for one of them does
nothing else, and one that is not goes as far as its write.
-/

namespace Mqtt

/-! ### Reasons -/

def Topic.nameError? (topic : String) : Option Error :=
  match checkName topic with
  | .ok () => none
  | .error fault => some (.invalidTopic topic fault)

def Topic.filterError? (filter : String) : Option Error :=
  match checkFilter filter with
  | .ok () => none
  | .error fault => some (.invalidTopic filter fault)

/-- What is wrong with a request in itself; of several illegal filters the first one counts. -/
def Request.fault? : Request → Option Error
  | publish p => Topic.nameError? p.topic
  | subscribe p =>
    if p.subscriptions.isEmpty then
      some (.packetValidation .subscribe (.text "empty subscription set"))
    else p.subscriptions.findSome? fun subscription => Topic.filterError? subscription.filter
  | unsubscribe p =>
    if p.filters.isEmpty then
      some (.packetValidation .unsubscribe (.text "empty topic filter set"))
    else p.filters.findSome? Topic.filterError?
  | ping | disconnect => none

namespace Session

/-- Why the state of a session does not allow a request. -/
def obstacle? (s : Session) : Request → Option Error
  | .disconnect =>
    if s.status = .connected ∨ s.status = .connecting then none
    else some (.nothingToDisconnect s.status)
  | request =>
    if s.status ≠ .connected then some (.notConnected s.status)
    else if request.takesId ∧ s.ids.count = PacketIds.total then some .identifierExhaustion
    else none

/-- Why an operation that the application asks for is refused. Its own faults come first, then the
status of the connection, then a lack of identifiers. -/
def refusal? (s : Session) : Input → Option Error
  | .startConnect _ =>
    if s.status = .disconnected then none else some (.connectNotAllowed s.status)
  | .request request => request.fault?.or (s.obstacle? request)
  | .report _ _ | .service | .nextService => none

end Session

/-! ### Checks -/

def Rejection.error? : Except Rejection Unit → Option Error
  | .ok () => none
  | .error why => some why.error

open Rejection

theorem error?_requireTopic (kind : PacketKind) (topic : String) :
    error? (requireTopic kind topic) = Topic.nameError? topic := by
  unfold requireTopic Topic.nameError?
  cases Topic.checkName topic with
  | ok _ => rfl
  | error _ => rfl

theorem error?_requireFilters (kind : PacketKind) (filters : List String) :
    error? (requireFilters kind filters) = filters.findSome? Topic.filterError? := by
  induction filters with
  | nil => rfl
  | cons filter filters ih =>
    unfold requireFilters
    rw [List.findSome?_cons, Topic.filterError?]
    cases Topic.checkFilter filter with
    | ok _ => exact ih
    | error _ => rfl

theorem Request.error?_check (q : Request) : error? q.check = q.fault? := by
  cases q with
  | publish p => exact error?_requireTopic .publish p.topic
  | subscribe p =>
    simp only [check, Subscribe.check, fault?]
    split_ifs
    · rfl
    · rw [error?_requireFilters, List.findSome?_map]
      rfl
  | unsubscribe p =>
    simp only [check, Unsubscribe.check, fault?]
    split_ifs
    · rfl
    · exact error?_requireFilters .unsubscribe p.filters
  | ping => rfl
  | disconnect => rfl

theorem Request.fault?_of_ok {q : Request} (h : q.check = .ok ()) : q.fault? = none := by
  rw [← q.error?_check, h]
  rfl

namespace Session

/-! ### One step -/

section Rules

variable {s u v : Session} {fault : Option Error} {input : Input} {packet : Packet}
  {events : List Event} {output : Output} {y : Yield}

theorem obstacle?_of_not_connected {q : Request} (hq : q ≠ .disconnect)
    (hs : s.status ≠ .connected) : s.obstacle? q = some (.notConnected s.status) := by
  cases q with
  | disconnect => exact absurd rfl hq
  | publish _ | subscribe _ | unsubscribe _ | ping => exact if_pos hs

theorem obstacle?_of_connected {q : Request} (hs : s.status = .connected) : s.obstacle? q =
    if q.takesId ∧ s.ids.count = PacketIds.total then some .identifierExhaustion else none := by
  cases q <;> simp [obstacle?, hs, Request.takesId]

theorem Idle.refusal?_eq {q : Request} {result : Except Error Output}
    (h : Idle s (.request q) result) :
    ∃ e, result = .error e ∧ s.refusal? (.request q) = some e := by
  cases h with
  | rejected _ why hc =>
    refine ⟨why.error, rfl, ?_⟩
    rw [refusal?, ← q.error?_check, hc]
    rfl
  | notConnected _ hc hd hs =>
    refine ⟨_, rfl, ?_⟩
    rw [refusal?, Request.fault?_of_ok hc, Option.none_or, obstacle?_of_not_connected hd hs]
  | nothingToDisconnect h₁ h₂ => exact ⟨_, rfl, if_neg (not_or.mpr ⟨h₁, h₂⟩)⟩

theorem refusal?_of_connected {q : Request} (hc : q.check = .ok ()) (hs : s.status = .connected) :
    s.refusal? (.request q) =
      if q.takesId ∧ s.ids.count = PacketIds.total then some .identifierExhaustion else none := by
  rw [refusal?, Request.fault?_of_ok hc, Option.none_or, obstacle?_of_connected hs]

theorem Writes.acquired {q : Request} (h : Writes s (.request q) packet u v events output)
    (hq : q.takesId) : s.ids.acquire.1 ≠ none := by
  cases h with
  | publishOnce _ _ _ _ _ ha _ | publish _ _ _ _ _ ha _ | subscribe _ _ _ _ _ ha
  | unsubscribe _ _ _ _ _ ha => simp [ha]
  | ping _ => cases hq

theorem Writes.refusal?_eq_none {q : Request}
    (h : Writes s (.request q) packet u v events output) (hs : Bookkeeping s) :
    s.refusal? (.request q) = none := by
  obtain ⟨hc, hst⟩ := h.of_request
  rw [refusal?_of_connected hc hst]
  apply if_neg
  rintro ⟨hq, hcount⟩
  exact h.acquired hq (hs.acquire_eq_none_iff.mpr hcount)

/-- A request is refused, and nothing else happens; or it returns well, unless its write fails. -/
theorem Transition.of_request {q : Request} (h : Transition s fault (.request q) y)
    (hs : Bookkeeping s) :
    (∃ e, s.refusal? (.request q) = some e ∧ y = ⟨.error e, s, [], []⟩) ∨
      s.refusal? (.request q) = none ∧
        ((∃ id, y.result = .ok (.packetId id)) ∨
          ∃ e, q ≠ .disconnect ∧ s.writeError fault = some e ∧ y.result = .error e ∧
            y.session.status = .disconnected) := by
  cases h with
  | idle hi =>
    obtain ⟨e, rfl, he⟩ := hi.refusal?_eq
    exact .inl ⟨e, he, rfl⟩
  | exhausted _ ids hc hq hst ha =>
    have hnone : s.ids.acquire.1 = none := by rw [ha]
    refine .inl ⟨.identifierExhaustion, ?_, ?_⟩
    · rw [refusal?_of_connected hc hst, if_pos ⟨hq, hs.acquire_eq_none_iff.mp hnone⟩]
    · rw [PacketIds.acquire_none ha hs.next_ne_zero]
  | wrote hw _ _ =>
    refine .inr ⟨hw.refusal?_eq_none hs, .inl ?_⟩
    cases hw <;> exact ⟨_, rfl⟩
  | @writeFailed _ _ u _ _ _ e hw he =>
    refine .inr ⟨hw.refusal?_eq_none hs, .inr ⟨e, ?_, ?_, rfl, rfl⟩⟩
    · rintro rfl
      cases hw
    · rcases hw.connect_or_talk with ⟨_, hi, -⟩ | ⟨-, -, -, hu⟩
      · cases hi
      · rw [writeError, ← hu]
        exact he
  | disconnected hst => exact .inr ⟨if_pos hst, .inl ⟨none, rfl⟩⟩

end Rules

example : (new {}).refusal? (.request (.unsubscribe ⟨0, ["a/b", "a#", ""]⟩)) =
    some (.invalidTopic "a#" .badWildcard) := by
  decide +kernel

end Session

end Mqtt
