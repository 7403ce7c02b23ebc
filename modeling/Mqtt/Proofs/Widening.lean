import Mqtt.Proofs.TopicGrammar

/-!
# Filters and the names they come from

A topic filter is a topic name in which some levels are replaced by `+` and the end by `#`. Names
and filters are told apart by their wildcards alone: the two checks look at a text in different
orders, but they agree on every text without wildcards.
-/

namespace Mqtt.Topic

/-! ### Characters -/

theorem exists_mem_cut {c d : Char} (hd : d ≠ '/') (ls : List (List Char)) :
    (∃ level ∈ cut c ls, d ∈ level) ↔ d = c ∨ ∃ level ∈ ls, d ∈ level := by
  by_cases hc : c = '/'
  · have hdc : d ≠ c := hc ▸ hd
    cases ls with
    | nil => simp [cut, hc, hd]
    | cons level rest => simp [cut, hc, hd]
  · cases ls with
    | nil => simp [cut, hc]
    | cons level rest => simp [cut, hc, or_assoc]

theorem mem_iff_mem_levels {d : Char} (hd : d ≠ '/') (cs : List Char) :
    d ∈ cs ↔ ∃ level ∈ levels cs, d ∈ level := by
  induction cs with
  | nil => simp
  | cons c cs ih => rw [levels_cons, exists_mem_cut hd, List.mem_cons, ih]

theorem slash_notMem_of_mem_levels {cs level : List Char} (h : level ∈ levels cs) :
    '/' ∉ level := by
  induction cs generalizing level with
  | nil => simp_all
  | cons c cs ih =>
    rw [levels_cons] at h
    obtain ⟨first, rest, hls⟩ := List.exists_cons_of_ne_nil (levels_ne_nil cs)
    rw [hls] at h ih
    by_cases hc : c = '/'
    · rw [cut, if_pos hc] at h
      rcases List.mem_cons.mp h with rfl | h
      · exact List.not_mem_nil
      · exact ih h
    · rw [cut, if_neg hc] at h
      rcases List.mem_cons.mp h with rfl | h
      · have hfirst := ih List.mem_cons_self
        simp [hfirst, Ne.symm hc]
      · exact ih (List.mem_cons_of_mem first h)

theorem levels_map {f : Char → Char} (hf : ∀ c, f c = '/' ↔ c = '/') (cs : List Char) :
    levels (cs.map f) = (levels cs).map (List.map f) := by
  induction cs with
  | nil => simp
  | cons c cs ih =>
    rw [List.map_cons, levels_cons, levels_cons, ih]
    obtain ⟨level, rest, hls⟩ := List.exists_cons_of_ne_nil (levels_ne_nil cs)
    by_cases hc : c = '/'
    · simp [hls, cut, hc, hf]
    · simp [hls, cut, hc, hf]

theorem utf8ByteSize_ofList_map {f : Char → Char} (hf : ∀ c, (f c).utf8Size = c.utf8Size)
    (cs : List Char) :
    (String.ofList (cs.map f)).utf8ByteSize = (String.ofList cs).utf8ByteSize := by
  induction cs with
  | nil => rfl
  | cons c cs ih =>
    rw [List.map_cons, utf8ByteSize_ofList_cons, utf8ByteSize_ofList_cons, hf, ih]

/-! ### Replacing levels -/

def join (ls : List (List Char)) : String := String.ofList (['/'].intercalate ls)

theorem levels_join {ls : List (List Char)} (hslash : ∀ level ∈ ls, '/' ∉ level) (hne : ls ≠ []) :
    levels (join ls).toList = ls := by
  rw [join, String.toList_ofList, levels_eq_splitOn]
  exact List.splitOn_intercalate '/' hslash hne

theorem join_levels (s : String) : join (levels s.toList) = s := by
  rw [join, levels_eq_splitOn, List.intercalate_splitOn, String.ofList_toList]

/-- Puts `+` in the place of the levels that are marked. -/
def plusLevels (plus : ℕ → Bool) (ls : List (List Char)) : List (List Char) :=
  ls.mapIdx fun i level => if plus i then ['+'] else level

/-- Puts `#` in the place of all levels from a given one on. -/
def stopLevels : Option ℕ → List (List Char) → List (List Char)
  | none, ls => ls
  | some n, ls => ls.take n ++ [['#']]

/-- Replaces the levels that `plus` marks by `+`, and, where `stop` is given, all that comes after
so many levels by a single level `#`. -/
def widen (plus : ℕ → Bool) (stop : Option ℕ) (name : String) : String :=
  join (stopLevels stop (plusLevels plus (name.toList.splitOn '/')))

section Widen

variable {plus : ℕ → Bool} {stop : Option ℕ} {ls : List (List Char)} {level : List Char}

theorem mem_plusLevels (h : level ∈ plusLevels plus ls) : level ∈ ls ∨ level = ['+'] := by
  obtain ⟨i, hi, rfl⟩ := List.mem_mapIdx.mp h
  by_cases hp : plus i
  · exact .inr (if_pos hp)
  · rw [if_neg hp]
    exact .inl (List.getElem_mem hi)

theorem mem_stopLevels (h : level ∈ stopLevels stop ls) : level ∈ ls ∨ level = ['#'] := by
  cases stop with
  | none => exact .inl h
  | some n =>
    rcases List.mem_append.mp h with h | h
    · exact .inl (List.mem_of_mem_take h)
    · exact .inr (List.mem_singleton.mp h)

theorem plusLevels_ne_nil (h : ls ≠ []) : plusLevels plus ls ≠ [] := by
  simpa [plusLevels] using h

theorem stopLevels_ne_nil (h : ls ≠ []) : stopLevels stop ls ≠ [] := by
  cases stop with
  | none => exact h
  | some n => exact List.concat_ne_nil ['#'] (ls.take n)

theorem eq_of_plusLevels_eq (h : plusLevels plus ls = [[]]) : ls = [[]] := by
  have hlen : ls.length = 1 := by simpa [plusLevels] using congrArg List.length h
  obtain ⟨level, rfl⟩ := List.length_eq_one_iff.mp hlen
  by_cases hp : plus 0
  · simp [plusLevels, hp] at h
  · simpa [plusLevels, hp] using h

theorem eq_of_stopLevels_eq (h : stopLevels stop ls = [[]]) : ls = [[]] := by
  cases stop with
  | none => exact h
  | some n =>
    have hmem : ['#'] ∈ stopLevels (some n) ls := by simp [stopLevels]
    simp [h] at hmem

theorem levelsLegal_concat (init : List (List Char)) (last : List Char) :
    levelsLegal (init ++ [last]) = (init.all isInnerLevel && isLastLevel last) := by
  induction init with
  | nil => simp [levelsLegal]
  | cons level rest ih =>
    rw [List.cons_append, levelsLegal_cons_of_ne_nil (List.concat_ne_nil last rest), ih,
      List.all_cons, Bool.and_assoc]

theorem levelsLegal_of_inner (h : ∀ level ∈ ls, isInnerLevel level = true) :
    levelsLegal ls = true := by
  induction ls with
  | nil => rfl
  | cons level rest ih =>
    have hlevel := h level List.mem_cons_self
    have hrest := ih fun level hl => h level (List.mem_cons_of_mem _ hl)
    rw [levelsLegal_cons_of_ne (by rintro rfl; exact absurd hlevel (by decide)), hlevel, hrest]
    rfl

/-- Whatever is replaced in levels that may stand anywhere, the levels of a filter come out. -/
theorem levelsLegal_stopLevels (h : ∀ level ∈ ls, isInnerLevel level = true) :
    levelsLegal (stopLevels stop (plusLevels plus ls)) = true := by
  have hinner : ∀ level ∈ plusLevels plus ls, isInnerLevel level = true := fun level hl => by
    rcases mem_plusLevels hl with hl | rfl
    · exact h level hl
    · rfl
  cases stop with
  | none => exact levelsLegal_of_inner hinner
  | some n =>
    rw [stopLevels, levelsLegal_concat, Bool.and_eq_true, List.all_eq_true]
    exact ⟨fun level hl => hinner level (List.mem_of_mem_take hl), rfl⟩

end Widen

/-! ### Filters from names -/

section Name

variable {plus : ℕ → Bool} {stop : Option ℕ} {name : String}

theorem levels_widen (plus : ℕ → Bool) (stop : Option ℕ) (name : String) :
    levels (widen plus stop name).toList =
      stopLevels stop (plusLevels plus (levels name.toList)) := by
  rw [widen, ← levels_eq_splitOn]
  refine levels_join (fun level hl => ?_)
    (stopLevels_ne_nil (plusLevels_ne_nil (levels_ne_nil name.toList)))
  rcases mem_stopLevels hl with hl | rfl
  · rcases mem_plusLevels hl with hl | rfl
    · exact slash_notMem_of_mem_levels hl
    · decide
  · decide

theorem mem_widen {d : Char} (hd : d ≠ '/') (h : d ∈ (widen plus stop name).toList) :
    d ∈ name.toList ∨ d = '+' ∨ d = '#' := by
  obtain ⟨level, hl, hmem⟩ := (mem_iff_mem_levels hd _).mp h
  rw [levels_widen] at hl
  rcases mem_stopLevels hl with hl | rfl
  · rcases mem_plusLevels hl with hl | rfl
    · exact .inl ((mem_iff_mem_levels hd _).mpr ⟨level, hl, hmem⟩)
    · exact .inr (.inl (List.mem_singleton.mp hmem))
  · exact .inr (.inr (List.mem_singleton.mp hmem))

theorem widen_ne_empty (h : name ≠ "") : widen plus stop name ≠ "" := by
  intro hempty
  have hls := levels_widen plus stop name
  rw [hempty] at hls
  have hname := eq_of_plusLevels_eq (eq_of_stopLevels_eq hls.symm)
  rw [← join_levels name, hname] at h
  exact h rfl

theorem isInnerLevel_of_free {cs level : List Char} (hplus : '+' ∉ cs) (hhash : '#' ∉ cs)
    (h : level ∈ levels cs) : isInnerLevel level = true := by
  rw [isInnerLevel_iff]
  exact .inl ⟨fun hmem => hplus ((mem_iff_mem_levels (by decide) cs).mpr ⟨level, h, hmem⟩),
    fun hmem => hhash ((mem_iff_mem_levels (by decide) cs).mpr ⟨level, h, hmem⟩)⟩

theorem checkFilter_widen (h : checkName name = .ok ())
    (hlen : (widen plus stop name).utf8ByteSize ≤ 65535) :
    checkFilter (widen plus stop name) = .ok () := by
  obtain ⟨hlength, ⟨hplus, hhash⟩, hnull⟩ := (checkName_eq_ok_iff name).mp h
  rw [checkFilter_eq_ok_iff, hasLegalLength_iff, levels_widen]
  refine ⟨⟨?_, hlen⟩, fun hmem => ?_,
    levelsLegal_stopLevels fun level hl => isInnerLevel_of_free hplus hhash hl⟩
  · have hne : name ≠ "" := by
      rintro rfl
      simp [hasLegalLength] at hlength
    rw [Nat.one_le_iff_ne_zero, Ne, String.utf8ByteSize_eq_zero_iff]
    exact widen_ne_empty hne
  · rcases mem_widen (by decide) hmem with hmem | hmem
    · exact hnull hmem
    · revert hmem
      decide

end Name

/-! ### Names from filters -/

def plain (c : Char) : Char := if isWildcard c then 'a' else c

theorem isWildcard_plain (c : Char) : isWildcard (plain c) = false := by
  unfold plain
  cases h : isWildcard c with
  | true => rfl
  | false => exact h

theorem utf8Size_plain (c : Char) : (plain c).utf8Size = c.utf8Size := by
  unfold plain
  split
  next h =>
    simp only [isWildcard, Bool.or_eq_true, decide_eq_true_iff] at h
    rcases h with rfl | rfl <;> rfl
  next => rfl

theorem plain_eq_iff {d : Char} (hd : isWildcard d = false) (hda : d ≠ 'a') (c : Char) :
    plain c = d ↔ c = d := by
  unfold plain
  split
  next h =>
    constructor
    · exact fun ha => absurd ha.symm hda
    · rintro rfl
      exact absurd h (by simp [hd])
  next => exact Iff.rfl

theorem map_plain_of_free {level : List Char} (h : level.any isWildcard = false) :
    level.map plain = level := by
  rw [List.any_eq_false] at h
  refine (List.map_congr_left fun c hc => ?_).trans (List.map_id level)
  exact if_neg (h c hc)

def isPlusAt (ls : List (List Char)) (i : ℕ) : Bool := ls[i]? = some ['+']

/-- What is left of a level once its wildcards are letters and the lone `+` is put back. -/
def plainLevel (level : List Char) : List Char :=
  if level = ['+'] then level else level.map plain

theorem plusLevels_map_plain (ls : List (List Char)) :
    plusLevels (isPlusAt ls) (ls.map (List.map plain)) = ls.map plainLevel := by
  refine List.ext_getElem (by simp [plusLevels]) fun i hi hi' => ?_
  have hlen : i < ls.length := by simpa using hi'
  by_cases hp : ls[i] = ['+']
  · simp [plusLevels, isPlusAt, plainLevel, hlen, hp]
  · simp [plusLevels, isPlusAt, plainLevel, hlen, hp]

theorem map_plainLevel_of_inner {ls : List (List Char)}
    (h : ∀ level ∈ ls, isInnerLevel level = true) : ls.map plainLevel = ls := by
  refine (List.map_congr_left fun level hl => ?_).trans (List.map_id ls)
  by_cases hp : level = ['+']
  · exact if_pos hp
  · have hfree := h level hl
    rw [isInnerLevel, beq_eq_false_iff_ne.mpr hp, Bool.false_or, Bool.not_eq_true'] at hfree
    exact (if_neg hp).trans (map_plain_of_free hfree)

/-- The levels of a filter come back from those in which its wildcards are letters. -/
theorem exists_stopLevels_eq {ls : List (List Char)} (hne : ls ≠ [])
    (h : levelsLegal ls = true) :
    ∃ plus stop, stopLevels stop (plusLevels plus (ls.map (List.map plain))) = ls := by
  obtain ⟨init, last, rfl⟩ := (List.eq_nil_or_concat' ls).resolve_left hne
  rw [levelsLegal_concat, Bool.and_eq_true, List.all_eq_true] at h
  obtain ⟨hinit, hlast⟩ := h
  by_cases hhash : last = ['#']
  · refine ⟨isPlusAt (init ++ [last]), some init.length, ?_⟩
    rw [plusLevels_map_plain, List.map_append, map_plainLevel_of_inner hinit, stopLevels,
      List.take_left, hhash]
  · refine ⟨isPlusAt (init ++ [last]), none, ?_⟩
    rw [isLastLevel, beq_eq_false_iff_ne.mpr hhash, Bool.false_or] at hlast
    rw [plusLevels_map_plain, stopLevels]
    refine map_plainLevel_of_inner fun level hl => ?_
    rcases List.mem_append.mp hl with hl | hl
    · exact hinit level hl
    · rw [List.mem_singleton.mp hl]
      exact hlast

theorem checkName_plain {s : String} (h : checkFilter s = .ok ()) :
    checkName (String.ofList (s.toList.map plain)) = .ok () := by
  obtain ⟨hlength, hnull, -⟩ := (checkFilter_eq_ok_iff s).mp h
  have hsize := utf8ByteSize_ofList_map utf8Size_plain s.toList
  rw [String.ofList_toList] at hsize
  have hwild : ∀ d, isWildcard d = true → d ∉ s.toList.map plain := by
    intro d hd hmem
    obtain ⟨c, -, rfl⟩ := List.mem_map.mp hmem
    rw [isWildcard_plain] at hd
    cases hd
  rw [checkName_eq_ok_iff, hasLegalLength_iff, hsize, ← hasLegalLength_iff, String.toList_ofList]
  refine ⟨hlength, ⟨hwild '+' rfl, hwild '#' rfl⟩, fun hmem => hnull ?_⟩
  obtain ⟨c, hc, hplain⟩ := List.mem_map.mp hmem
  rwa [(plain_eq_iff rfl (by decide) c).mp hplain] at hc

theorem exists_widen {s : String} (h : checkFilter s = .ok ()) :
    ∃ name plus stop, checkName name = .ok () ∧ s = widen plus stop name := by
  obtain ⟨-, -, hlegal⟩ := (checkFilter_eq_ok_iff s).mp h
  obtain ⟨plus, stop, hls⟩ := exists_stopLevels_eq (levels_ne_nil s.toList) hlegal
  refine ⟨_, plus, stop, checkName_plain h, ?_⟩
  have hslash : ∀ c, plain c = '/' ↔ c = '/' := plain_eq_iff rfl (by decide)
  rw [widen, ← levels_eq_splitOn, String.toList_ofList, levels_map hslash, hls, join_levels]

/-! ### Both checks -/

theorem checkName_eq_ok_iff_checkFilter (s : String) :
    checkName s = .ok () ↔ checkFilter s = .ok () ∧ '+' ∉ s.toList ∧ '#' ∉ s.toList := by
  rw [checkName_eq_ok_iff, checkFilter_eq_ok_iff]
  constructor
  · rintro ⟨hlength, ⟨hplus, hhash⟩, hnull⟩
    have hlegal := levelsLegal_of_inner fun level hl => isInnerLevel_of_free hplus hhash hl
    exact ⟨⟨hlength, hnull, hlegal⟩, hplus, hhash⟩
  · rintro ⟨⟨hlength, hnull, -⟩, hfree⟩
    exact ⟨hlength, hfree, hnull⟩

/-- Names are the filters without wildcards. A filter is what becomes of a name, as long as it does
not get too long, where any levels are replaced by `+`, and any number of levels is kept and
followed by `#`. -/
theorem filters_widen_names :
    (∀ s, checkName s = .ok () ↔
      checkFilter s = .ok () ∧ '+' ∉ s.toList ∧ '#' ∉ s.toList) ∧
    ∀ s, checkFilter s = .ok () ↔
      s.utf8ByteSize ≤ 65535 ∧
        ∃ name plus stop, checkName name = .ok () ∧ s = widen plus stop name := by
  refine ⟨checkName_eq_ok_iff_checkFilter, fun s => ⟨fun h => ?_, ?_⟩⟩
  · obtain ⟨hlength, -⟩ := (checkFilter_eq_ok_iff s).mp h
    exact ⟨((hasLegalLength_iff s).mp hlength).2, exists_widen h⟩
  · rintro ⟨hlen, name, plus, stop, hname, rfl⟩
    exact checkFilter_widen hname hlen

example : widen (fun i => i = 1) (some 3) "a/b//d" = "a/+//#" := by decide

end Mqtt.Topic
