import LuaAccessors.Cpp.Name
import LuaAccessors.Proofs.Files.Path
import LuaAccessors.Proofs.Text.LetterCase

/-!
# Names of header files

The file for a script is called by its stem with capitals. Letter case makes letters only, so a slash in the name
of the file could come from the stem alone, and no stem has one.

- `mem_of_mem_pascalCase`: no separators are made;
- `isFileName_outputFileName`: the header of a script is a file of its own.
-/

namespace LuaAccessors.Cpp

/-! ## §1 Characters of a name with capitals -/

/-- Runs are not empty, and their characters are characters of the text. -/
theorem of_mem_runs {p : Char → Bool} {t run : Text} (h : run ∈ runs p t) :
    run ≠ [] ∧ ∀ c ∈ run, c ∈ t ∧ p c = true := by
  obtain ⟨hmem, hne⟩ := List.mem_filter.1 h
  refine ⟨by simpa using hne, ?_⟩
  intro c hc
  obtain ⟨hct, hp⟩ := Text.mem_of_mem_splitWhere hmem hc
  exact ⟨hct, by simpa using hp⟩

/-- A character that letter case leaves alone is in the name with capitals only if it is in a piece. -/
theorem exists_segment_of_mem_pascalCase {name : Text} {c : Char} (hc : isCaseImage c.toNat = false)
    (h : c ∈ pascalCase name) : ∃ run ∈ segments name, c ∈ run := by
  obtain ⟨run, hrun, h⟩ := List.mem_flatMap.1 h
  refine ⟨run, hrun, ?_⟩
  cases run with
  | nil => cases h
  | cons first rest =>
    rcases List.mem_append.1 h with h | h
    · rw [eq_of_mem_upperChar hc h]
      exact List.mem_cons_self
    · exact List.mem_cons_of_mem _ (mem_of_mem_lower hc h)

theorem mem_of_mem_pascalCase {name : Text} {c : Char} (hc : isCaseImage c.toNat = false)
    (h : c ∈ pascalCase name) : c ∈ name := by
  obtain ⟨run, hrun, hmem⟩ := exists_segment_of_mem_pascalCase hc h
  exact ((of_mem_runs hrun).2 c hmem).1

theorem underscore_not_mem_pascalCase (name : Text) : '_' ∉ pascalCase name := by
  intro h
  obtain ⟨run, hrun, hmem⟩ := exists_segment_of_mem_pascalCase (by decide) h
  have hunderscore := ((of_mem_runs hrun).2 _ hmem).2
  simp at hunderscore

/-! ## §2 Files -/

/-- The header of a script is a file of its own. -/
theorem isFileName_outputFileName {stem : Text} (h : '/' ∉ stem) : IsFileName (outputFileName stem) := by
  -- The fixed part of the name alone makes it longer than `.` and `..`.
  have hlength : 2 < (outputFileName stem).length := by
    simp [outputFileName]
  have hne : ∀ name : Text, name.length ≤ 2 → outputFileName stem ≠ name := by
    rintro name hname rfl
    omega
  constructor
  case not_mem_slash =>
    intro hslash
    simp only [outputFileName, scriptClassName, List.mem_append] at hslash
    -- The conversion keeps characters or changes their case, and a slash comes from no other character.
    rcases hslash with (hslash | hslash) | hslash
    · exact h (mem_of_mem_pascalCase (by decide) hslash)
    · exact absurd hslash (by decide)
    · exact absurd hslash (by decide)
  case ne_nil => exact hne _ (by decide)
  case ne_here => exact hne _ (by decide)
  case ne_above => exact hne _ (by decide)

end LuaAccessors.Cpp
