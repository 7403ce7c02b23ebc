import Mathlib.Data.List.Induction
import Mqtt.Proofs.Moves

/-!
# Reports that a network can make

Actions are arbitrary, reports included. A network makes its reports with more restraint: on an
attempt only after it has begun, that it was opened or has failed once at most, and what comes in or
ends only where something was opened. Transports that it opens are new each time.
-/

namespace Mqtt.Session

def Move.begun? (m : Move) : Option Nat :=
  match m.result with
  | .ok (.attempt attempt) => some attempt
  | _ => none

/-- The attempt whose connector has come back, with a transport or with an error. -/
def Input.dialed? : Input → Option Nat
  | .report attempt (.opened _) | .report attempt (.failed _) => some attempt
  | _ => none

def Input.opening? : Input → Option (Nat × TransportId)
  | .report attempt (.opened transport) => some (attempt, transport)
  | _ => none

def begun (ms : List Move) : List Nat := ms.filterMap Move.begun?

def dialed (ms : List Move) : List Nat := ms.filterMap (·.action.input.dialed?)

/-- The transports that some moves were given, each with its attempt. -/
def openings (ms : List Move) : List (Nat × TransportId) :=
  ms.filterMap (·.action.input.opening?)

/-- What can be asked of a session after some moves. The application can ask for anything. -/
def Input.Possible (earlier : List Move) : Input → Prop
  | .report attempt what => attempt ∈ begun earlier ∧
    match what with
    | .opened transport => attempt ∉ dialed earlier ∧ ∀ k, (k, transport) ∉ openings earlier
    | .failed _ => attempt ∉ dialed earlier
    | .received _ | .closed => ∃ transport, (attempt, transport) ∈ openings earlier
  | .startConnect _ | .request _ | .service | .nextService => True

def Networked (ms : List Move) : Prop :=
  ∀ earlier m, earlier ++ [m] <+: ms → m.action.input.Possible earlier

variable {ms : List Move} {m : Move} {k : Nat} {transport : TransportId}

theorem networked_nil : Networked [] := by
  intro earlier m h
  simp at h

theorem networked_concat :
    Networked (ms ++ [m]) ↔ Networked ms ∧ m.action.input.Possible ms := by
  constructor
  · intro h
    exact ⟨fun earlier n hn => h earlier n (hn.trans (List.prefix_append ms [m])),
      h ms m (List.prefix_refl _)⟩
  · rintro ⟨hms, hm⟩ earlier n hn
    rcases List.prefix_concat_iff.mp hn with heq | hlt
    · obtain ⟨rfl, heq'⟩ := List.append_inj' heq rfl
      cases heq'
      exact hm
    · exact hms earlier n hlt

theorem networked_moves_concat (s : Session) (as : List Action) (a : Action) :
    Networked (s.moves (as ++ [a])) ↔
      Networked (s.moves as) ∧ a.input.Possible (s.moves as) := by
  rw [moves_concat]
  exact networked_concat

theorem Networked.of_earlier {ms' : List Move} (h : Networked ms) (hp : ms' <+: ms) :
    Networked ms' := fun earlier m hm => h earlier m (hm.trans hp)

theorem openings_concat (ms : List Move) (m : Move) :
    openings (ms ++ [m]) = openings ms ++ m.action.input.opening?.toList := by
  cases h : m.action.input.opening? <;> simp [openings, h]

theorem dialed_concat (ms : List Move) (m : Move) :
    dialed (ms ++ [m]) = dialed ms ++ m.action.input.dialed?.toList := by
  cases h : m.action.input.dialed? <;> simp [dialed, h]

theorem Input.opening?_eq_some {input : Input} (h : input.opening? = some (k, transport)) :
    input = .report k (.opened transport) := by
  unfold Input.opening? at h
  split at h
  · cases h
    rfl
  · cases h

theorem mem_dialed_of_mem_openings (h : (k, transport) ∈ openings ms) : k ∈ dialed ms := by
  obtain ⟨m, hm, ho⟩ := List.mem_filterMap.mp h
  refine List.mem_filterMap.mpr ⟨m, hm, ?_⟩
  rw [Input.opening?_eq_some ho]
  rfl

theorem begun_subset {ms' : List Move} (h : ms <+: ms') : begun ms ⊆ begun ms' :=
  (h.filterMap _).subset

theorem openings_subset {ms' : List Move} (h : ms <+: ms') : openings ms ⊆ openings ms' :=
  (h.filterMap _).subset

theorem Networked.begun_of_dialed (h : Networked ms) (hk : k ∈ dialed ms) : k ∈ begun ms := by
  induction ms using List.reverseRecOn with
  | nil => cases hk
  | append_singleton ms m ih =>
    obtain ⟨hms, hm⟩ := networked_concat.mp h
    apply begun_subset (List.prefix_append ms [m])
    rw [dialed_concat, List.mem_append, Option.mem_toList] at hk
    rcases hk with hk | hk
    · exact ih hms hk
    · unfold Input.dialed? at hk
      split at hk
      case h_1 hin =>
        cases hk
        rw [hin] at hm
        exact hm.1
      case h_2 hin =>
        cases hk
        rw [hin] at hm
        exact hm.1
      case h_3 => cases hk

/-- A transport belongs to one attempt. -/
theorem Networked.opening_unique (h : Networked ms) {k' : Nat}
    (hk : (k, transport) ∈ openings ms) (hk' : (k', transport) ∈ openings ms) : k = k' := by
  induction ms using List.reverseRecOn with
  | nil => cases hk
  | append_singleton ms m ih =>
    obtain ⟨hms, hm⟩ := networked_concat.mp h
    have hnew : ∀ {j : Nat}, (j, transport) ∈ m.action.input.opening?.toList →
        ∀ i, (i, transport) ∉ openings ms := by
      intro j hj
      rw [Option.mem_toList] at hj
      rw [Input.opening?_eq_some hj] at hm
      exact hm.2.2
    rw [openings_concat, List.mem_append] at hk hk'
    rcases hk with hk | hk
    · rcases hk' with hk' | hk'
      · exact ih hms hk hk'
      · exact absurd hk (hnew hk' k)
    · rcases hk' with hk' | hk'
      · exact absurd hk' (hnew hk k')
      · rw [Option.mem_toList] at hk hk'
        rw [hk] at hk'
        cases hk'
        rfl

end Mqtt.Session
