import Mqtt.Topic
import Mathlib.Data.List.Basic

/-!
# The grammar of topic filters

The levels of a filter are what stands between its slashes. A wildcard is a whole level, and `#` is
the last one; all other levels are free of wildcards. A single pass over the levels that remembers
whether it has met a `#`, and that looks for wildcards only in levels of more than one byte, decides
the same.
-/

namespace Mqtt.Topic

/-! ### Levels -/

theorem levels_eq_splitOn (cs : List Char) : levels cs = cs.splitOn '/' := by
  induction cs with
  | nil => rw [levels_nil, List.splitOn_nil]
  | cons c cs ih =>
    rw [levels_cons, ih, List.splitOn_cons_eq_if_modifyHead]
    obtain ⟨level, rest, hs⟩ := List.exists_cons_of_ne_nil (List.splitOn_ne_nil '/' cs)
    by_cases hc : c = '/'
    · simp [hs, cut, hc]
    · simp [hs, cut, hc]

/-! ### Lengths -/

theorem utf8ByteSize_ofList_cons (c : Char) (cs : List Char) :
    (String.ofList (c :: cs)).utf8ByteSize = c.utf8Size + (String.ofList cs).utf8ByteSize := by
  rw [← List.singleton_append, String.ofList_append, String.utf8ByteSize_append,
    ← String.singleton_eq_ofList, String.utf8ByteSize_singleton]

theorem exists_singleton_of_utf8ByteSize {level : List Char}
    (h : (String.ofList level).utf8ByteSize = 1) : ∃ c, level = [c] := by
  cases level with
  | nil => simp at h
  | cons c rest =>
    cases rest with
    | nil => exact ⟨c, rfl⟩
    | cons d rest =>
      rw [utf8ByteSize_ofList_cons, utf8ByteSize_ofList_cons] at h
      have hc := c.utf8Size_pos
      have hd := d.utf8Size_pos
      omega

theorem hasLegalLength_iff (s : String) :
    hasLegalLength s = true ↔ 1 ≤ s.utf8ByteSize ∧ s.utf8ByteSize ≤ 65535 := by
  rw [hasLegalLength, Bool.and_eq_true, decide_eq_true_iff, decide_eq_true_iff]
  rfl

/-! ### The grammar -/

/-- A wildcard is a whole level, and `#` the last one. -/
def Grammatical (ls : List (List Char)) : Prop :=
  ∀ i (h : i < ls.length),
    ('+' ∉ ls[i] ∧ '#' ∉ ls[i]) ∨ ls[i] = ['+'] ∨ (ls[i] = ['#'] ∧ i + 1 = ls.length)

theorem any_isWildcard_iff (level : List Char) :
    level.any isWildcard = true ↔ '+' ∈ level ∨ '#' ∈ level := by
  simp only [List.any_eq_true, isWildcard, Bool.or_eq_true, decide_eq_true_iff]
  constructor
  · rintro ⟨c, hc, rfl | rfl⟩
    · exact .inr hc
    · exact .inl hc
  · rintro (h | h)
    · exact ⟨'+', h, .inr rfl⟩
    · exact ⟨'#', h, .inl rfl⟩

theorem isInnerLevel_iff (level : List Char) :
    isInnerLevel level = true ↔ ('+' ∉ level ∧ '#' ∉ level) ∨ level = ['+'] := by
  rw [isInnerLevel, Bool.or_eq_true, beq_iff_eq, Bool.not_eq_true', ← Bool.not_eq_true,
    any_isWildcard_iff, not_or, or_comm]

theorem isLastLevel_iff (level : List Char) :
    isLastLevel level = true ↔
      ('+' ∉ level ∧ '#' ∉ level) ∨ level = ['+'] ∨ level = ['#'] := by
  rw [isLastLevel, Bool.or_eq_true, beq_iff_eq, isInnerLevel_iff, or_comm, or_assoc]

theorem grammatical_cons {level : List Char} {rest : List (List Char)} (h : rest ≠ []) :
    Grammatical (level :: rest) ↔ isInnerLevel level = true ∧ Grammatical rest := by
  have hlen : rest.length ≠ 0 := by simpa using h
  rw [isInnerLevel_iff]
  constructor
  · intro hg
    refine ⟨?_, fun i hi => ?_⟩
    · rcases hg 0 (by simp) with hfree | hplus | ⟨-, hlast⟩
      · exact .inl hfree
      · exact .inr hplus
      · rw [List.length_cons] at hlast
        omega
    · simpa only [List.getElem_cons_succ, List.length_cons, Nat.add_right_cancel_iff]
        using hg (i + 1) (Nat.succ_lt_succ hi)
  · rintro ⟨hfirst, hrest⟩ i hi
    cases i with
    | zero => rcases hfirst with hfree | hplus <;> simp [*]
    | succ i => simpa using hrest i (by simpa using hi)

theorem levelsLegal_cons_of_ne_nil {rest : List (List Char)} (h : rest ≠ []) (level : List Char) :
    levelsLegal (level :: rest) = (isInnerLevel level && levelsLegal rest) := by
  cases rest with
  | nil => exact absurd rfl h
  | cons next rest => rfl

theorem levelsLegal_iff (ls : List (List Char)) : levelsLegal ls = true ↔ Grammatical ls := by
  induction ls with
  | nil => simp [levelsLegal, Grammatical]
  | cons level rest ih =>
    cases rest with
    | nil => simp [levelsLegal, Grammatical, isLastLevel_iff]
    | cons next rest =>
      have hne := List.cons_ne_nil next rest
      rw [grammatical_cons hne, ← ih, levelsLegal_cons_of_ne_nil hne, Bool.and_eq_true]

/-! ### A single pass -/

/-- Goes over the levels and remembers whether the one before was `#`. -/
def scanLevels : Bool → List (List Char) → Bool
  | _, [] => true
  | true, _ :: _ => false
  | false, level :: rest =>
    if (String.ofList level).utf8ByteSize = 1 then scanLevels (level == ['#']) rest
    else !level.any isWildcard && scanLevels false rest

theorem levelsLegal_cons_of_ne {level : List Char} (h : level ≠ ['#']) (rest : List (List Char)) :
    levelsLegal (level :: rest) = (isInnerLevel level && levelsLegal rest) := by
  cases rest with
  | nil => simp [levelsLegal, isLastLevel, h]
  | cons next rest => rfl

theorem scanLevels_eq_levelsLegal (ls : List (List Char)) :
    scanLevels false ls = levelsLegal ls := by
  induction ls with
  | nil => rfl
  | cons level rest ih =>
    by_cases hone : (String.ofList level).utf8ByteSize = 1
    · obtain ⟨c, rfl⟩ := exists_singleton_of_utf8ByteSize hone
      rw [scanLevels, if_pos hone]
      by_cases hc : c = '#'
      · subst hc
        cases rest <;> rfl
      · -- A lone character other than `#` is `+` or no wildcard.
        have hinner : isInnerLevel [c] = true := by
          by_cases hplus : c = '+' <;> simp [isInnerLevel, isWildcard, hc, hplus]
        have hhash : [c] ≠ ['#'] := by simpa using hc
        rw [levelsLegal_cons_of_ne hhash, hinner, Bool.true_and, beq_eq_false_iff_ne.mpr hhash, ih]
    · have hplus : level ≠ ['+'] := by
        rintro rfl
        exact hone (by decide)
      have hhash : level ≠ ['#'] := by
        rintro rfl
        exact hone (by decide)
      rw [scanLevels, if_neg hone, ih, levelsLegal_cons_of_ne hhash, isInnerLevel,
        beq_eq_false_iff_ne.mpr hplus, Bool.false_or]

/-! ### The checks -/

theorem any_isNull_iff (cs : List Char) : cs.any isNull = true ↔ '\x00' ∈ cs := by
  simp [List.any_eq_true, isNull]

theorem checkName_eq_ok_iff (s : String) :
    checkName s = .ok () ↔ hasLegalLength s = true ∧ ('+' ∉ s.toList ∧ '#' ∉ s.toList) ∧
      '\x00' ∉ s.toList := by
  rw [← any_isNull_iff, ← not_or, ← any_isWildcard_iff, checkName]
  cases hasLegalLength s <;> cases s.toList.any isWildcard <;> cases s.toList.any isNull <;> simp

theorem checkFilter_eq_ok_iff (s : String) :
    checkFilter s = .ok () ↔ hasLegalLength s = true ∧ '\x00' ∉ s.toList ∧
      levelsLegal (levels s.toList) = true := by
  rw [← any_isNull_iff, checkFilter]
  cases hasLegalLength s <;> cases s.toList.any isNull <;>
    cases levelsLegal (levels s.toList) <;> simp

/-- A filter is accepted if and only if it has a legal length, holds no U+0000 and is grammatical;
otherwise the first of the three that fails is the reason. The single pass decides the third. -/
theorem filters_follow_grammar (s : String) :
    (checkFilter s = .ok () ↔
      (1 ≤ s.utf8ByteSize ∧ s.utf8ByteSize ≤ 65535) ∧ '\x00' ∉ s.toList ∧
        Grammatical (s.toList.splitOn '/')) ∧
    (checkFilter s = .error .lengthOutOfRange ↔
      ¬(1 ≤ s.utf8ByteSize ∧ s.utf8ByteSize ≤ 65535)) ∧
    (checkFilter s = .error .nullCharacter ↔
      (1 ≤ s.utf8ByteSize ∧ s.utf8ByteSize ≤ 65535) ∧ '\x00' ∈ s.toList) ∧
    (checkFilter s = .error .badWildcard ↔
      (1 ≤ s.utf8ByteSize ∧ s.utf8ByteSize ≤ 65535) ∧ '\x00' ∉ s.toList ∧
        ¬Grammatical (s.toList.splitOn '/')) ∧
    (scanLevels false (s.toList.splitOn '/') = true ↔ Grammatical (s.toList.splitOn '/')) := by
  rw [← levels_eq_splitOn, ← levelsLegal_iff, ← any_isNull_iff, ← hasLegalLength_iff,
    scanLevels_eq_levelsLegal, checkFilter]
  cases hasLegalLength s <;> cases s.toList.any isNull <;>
    cases levelsLegal (levels s.toList) <;> simp

example : checkFilter "a/+//#" = .ok () ∧ checkFilter "a/#/" = .error .badWildcard := by
  decide +kernel

end Mqtt.Topic
