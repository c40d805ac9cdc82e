import LuaAccessors.Files.Path
import LuaAccessors.Proofs.Text.Cut

/-!
# Names in paths

A slash separates the names in a path and is part of none. So a text without slashes is one name, and a path
is put together from a directory and a name in it.

- `slash_not_mem_stem`: what a file is called without its suffix;
- `join_name`: a name behind a path.
-/

namespace LuaAccessors.Path

theorem slash_not_mem_of_mem_parts {t part : Text} (h : part ∈ (ofText t).parts) : '/' ∉ part :=
  Text.not_mem_of_mem_splitOn (List.mem_filter.1 h).1

theorem slash_not_mem_name (t : Text) : '/' ∉ (ofText t).name := by
  intro hslash
  have hne : (ofText t).parts ≠ [] := by
    intro hnil
    rw [name, hnil] at hslash
    cases hslash
  rw [name, List.getLastD_eq_getLast?, List.getLast?_eq_some_getLast hne] at hslash
  exact slash_not_mem_of_mem_parts (List.getLast_mem hne) hslash

/-- The stem is the start of the name. -/
theorem mem_name_of_mem_stem {p : Path} {c : Char} (h : c ∈ p.stem) : c ∈ p.name := by
  unfold stem at h
  dsimp only at h
  split at h
  · rename_i front hdrop
    split at h
    · exact h
    · have hmem : c ∈ p.name.reverse.drop (p.name.reverse.takeWhile (· != '.')).length := by
        rw [hdrop]
        exact List.mem_cons_of_mem _ (List.mem_reverse.1 h)
      exact List.mem_reverse.1 (List.mem_of_mem_drop hmem)
  · exact h

theorem slash_not_mem_stem (t : Text) : '/' ∉ (ofText t).stem := fun h =>
  slash_not_mem_name t (mem_name_of_mem_stem h)

/-- **A name behind a path** is one more component. -/
theorem join_name (p : Path) {name : Text} (hslash : '/' ∉ name) (hne : name ≠ []) (hdot : name ≠ ['.']) :
    p.join name = { p with parts := p.parts ++ [name] } := by
  have hhead : (name.head? == some '/') = false := by
    cases name with
    | nil => exact absurd rfl hne
    | cons c rest =>
      apply beq_eq_false_iff_ne.2
      rintro ⟨⟩
      exact hslash List.mem_cons_self
  have hname : ofText name = { parts := [name] } := by
    rw [ofText, hhead, Text.splitOn_eq_self hslash, List.filter_cons_of_pos (by simp [hne, hdot]),
      List.filter_nil]
  rw [join, hname]
  rfl

end LuaAccessors.Path

namespace LuaAccessors

theorem IsFileName.join {name : Text} (h : IsFileName name) (p : Path) :
    p.join name = { p with parts := p.parts ++ [name] } :=
  p.join_name h.not_mem_slash h.ne_nil h.ne_here

end LuaAccessors
