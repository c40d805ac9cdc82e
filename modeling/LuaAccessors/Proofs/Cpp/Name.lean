import LuaAccessors.Proofs.Cpp.FileName
import LuaAccessors.Proofs.Declaration

/-!
# Conversions of names

Both conversions of a name look at its runs of characters only. On a name of ASCII letters, digits and
underscores the two see the same runs, and the one for private members keeps them all; so two such names
that it makes equal have the same form with capitals as well.

- `runs_join`: runs that have been joined are found again;
- `segments_sanitize`: the runs that the conversion for private members keeps;
- `pascalCase_eq_of_sanitize_eq`: what it makes equal.
-/

namespace LuaAccessors.Cpp

/-! ## §1 Runs -/

/-- What belongs to no run in front does not count. -/
theorem runs_cons {p : Char → Bool} {c : Char} (hc : p c = false) (rest : Text) :
    runs p (c :: rest) = runs p rest := by
  rw [runs, Text.splitWhere, if_pos (by simp [hc]), List.filter_cons_of_neg (by simp), runs]

/-- What belongs to a run is in one. -/
theorem exists_mem_runs {p : Char → Bool} {t : Text} {c : Char} (hc : c ∈ t) (hp : p c = true) :
    ∃ run ∈ runs p t, c ∈ run := by
  obtain ⟨run, hrun, hmem⟩ := Text.exists_mem_splitWhere (p := (!p ·)) hc (by simp [hp])
  exact ⟨run, List.mem_filter.2 ⟨hrun, by simpa using List.ne_nil_of_mem hmem⟩, hmem⟩

/-- A character that belongs to a run at the start of a text starts the first one. -/
theorem exists_runs_cons {p : Char → Bool} {c : Char} (hc : p c = true) (t : Text) :
    ∃ run others, runs p (c :: t) = (c :: run) :: others := by
  obtain ⟨run, others, hsplit⟩ := List.exists_cons_of_ne_nil (Text.splitWhere_ne_nil (!p ·) t)
  refine ⟨run, others.filter fun run => !run.isEmpty, ?_⟩
  rw [runs, Text.splitWhere, if_neg (by simp [hc]), hsplit]
  rfl

/-- Properties that agree on a text have the same runs there. -/
theorem runs_congr {p q : Char → Bool} {t : Text} (h : ∀ c ∈ t, p c = q c) : runs p t = runs q t := by
  have hcut : Text.splitWhere (!p ·) t = Text.splitWhere (!q ·) t := by
    induction t with
    | nil => rfl
    | cons c t ih =>
      have ih := ih fun d hd => h d (List.mem_cons_of_mem _ hd)
      simp only [Text.splitWhere, h c List.mem_cons_self, ih]
  rw [runs, hcut, runs]

/-- **Runs that have been joined are found again.** -/
theorem runs_join {p : Char → Bool} {separator : Char} (hseparator : p separator = false)
    {pieces : List Text} (h : ∀ run ∈ pieces, run ≠ [] ∧ ∀ c ∈ run, p c = true) :
    runs p (Text.join [separator] pieces) = pieces := by
  by_cases hpieces : pieces = []
  · rw [hpieces]
    rfl
  · have hcut : Text.splitWhere (!p ·) (Text.join [separator] pieces) = pieces := by
      apply Text.splitWhere_join (by simp [hseparator]) hpieces
      intro run hrun c hc
      simp [(h run hrun).2 c hc]
    -- None of the pieces is empty, so all are runs.
    rw [runs, hcut, List.filter_eq_self]
    intro run hrun
    simpa using (h run hrun).1

/-! ## §2 Names of private members -/

theorem ne_underscore_of_isAsciiAlphanumeric {c : Char} (h : isAsciiAlphanumeric c = true) :
    c ≠ '_' := by
  rintro rfl
  cases h

/-- The names of private members are made of ASCII letters, digits and underscores. -/
theorem isNamePart_of_mem_sanitize {name : Text} {c : Char} (h : c ∈ sanitize name) :
    isNamePart c = true := by
  have hjoined : ∀ c ∈ Text.join ['_'] (runs isAsciiAlphanumeric name), isNamePart c = true := by
    intro c hc
    rcases Text.mem_of_mem_join hc with hc | ⟨run, hrun, hc⟩
    · rw [List.mem_singleton.1 hc]
      rfl
    · have halnum := ((of_mem_runs hrun).2 c hc).2
      rw [isAsciiAlphanumeric] at halnum
      simp [isNamePart, halnum]
  unfold sanitize at h
  dsimp only at h
  -- An underscore may have been put in front of a digit.
  split at h
  · rcases List.mem_cons.1 h with rfl | h
    · rfl
    · exact hjoined c h
  · exact hjoined c h

/-- The conversion for private members keeps the runs of ASCII letters and digits. -/
theorem segments_sanitize (name : Text) :
    segments (sanitize name) = runs isAsciiAlphanumeric name := by
  have hjoined : segments (Text.join ['_'] (runs isAsciiAlphanumeric name)) =
      runs isAsciiAlphanumeric name := by
    apply runs_join (by simp)
    intro run hrun
    obtain ⟨hne, hall⟩ := of_mem_runs hrun
    refine ⟨hne, fun c hc => ?_⟩
    simpa using ne_underscore_of_isAsciiAlphanumeric (hall c hc).2
  unfold sanitize
  dsimp only
  split
  · -- The underscore in front of a digit begins no run.
    rw [segments, runs_cons (by simp)]
    exact hjoined
  · exact hjoined

/-- Both runs are kept, with an underscore in front of the digit. -/
example : sanitize "1st__try_".toList = "_1st_try".toList := by decide

/-- In a name of ASCII letters, digits and underscores both conversions see the same runs. -/
theorem segments_eq_runs {name : Text} (h : ∀ c ∈ name, isNamePart c = true) :
    segments name = runs isAsciiAlphanumeric name := by
  apply runs_congr
  intro c hc
  have hpart := h c hc
  rw [isNamePart, Bool.or_eq_true, beq_iff_eq] at hpart
  rcases hpart with halnum | rfl
  · rw [isAsciiAlphanumeric, halnum]
    simpa using ne_underscore_of_isAsciiAlphanumeric halnum
  · rfl

/-- **Private members tell apart what capitals tell apart**, for names of ASCII letters, digits and
underscores. -/
theorem pascalCase_eq_of_sanitize_eq {a b : Text} (ha : ∀ c ∈ a, isNamePart c = true)
    (hb : ∀ c ∈ b, isNamePart c = true) (h : sanitize a = sanitize b) : pascalCase a = pascalCase b := by
  have hsegments : segments a = segments b := by
    rw [segments_eq_runs ha, segments_eq_runs hb, ← segments_sanitize, ← segments_sanitize, h]
  rw [pascalCase, hsegments, pascalCase]

end LuaAccessors.Cpp
