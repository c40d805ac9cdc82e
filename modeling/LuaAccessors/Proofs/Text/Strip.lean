import Mathlib.Data.List.TakeWhile
import Mathlib.Tactic.Common
import LuaAccessors.Text.Basic

/-!
# Trimming

A trimmed text starts and ends with characters that are no blanks, and what has been taken away at its
ends is blank. The two facts determine it.
-/

namespace LuaAccessors.Text

/-- A text of blanks. -/
def AllBlank (t : Text) : Prop := ∀ c ∈ t, isBlank c = true

/-- A text that no blank starts and no blank ends. -/
structure Trimmed (t : Text) : Prop where
  head : ∀ c ∈ t.head?, isBlank c = false
  last : ∀ c ∈ t.getLast?, isBlank c = false

theorem allBlank_nil : AllBlank [] := fun _ h => absurd h (by simp)

theorem allBlank_cons {c : Char} {t : Text} :
    AllBlank (c :: t) ↔ isBlank c = true ∧ AllBlank t := by
  simp [AllBlank]

theorem allBlank_append {t u : Text} : AllBlank (t ++ u) ↔ AllBlank t ∧ AllBlank u := by
  simp [AllBlank, or_imp, forall_and]

theorem AllBlank.reverse {t : Text} (h : AllBlank t) : AllBlank t.reverse :=
  fun c hc => h c (List.mem_reverse.1 hc)

theorem allBlank_takeWhile (t : Text) : AllBlank (t.takeWhile isBlank) :=
  fun _ hc => List.mem_takeWhile_imp hc

theorem isBlank_head_dropWhile {t : Text} : ∀ c ∈ (t.dropWhile isBlank).head?, isBlank c = false := by
  intro c hc
  have h := List.head?_dropWhile_not isBlank t
  rw [Option.mem_def.1 hc] at h
  simpa using h

theorem dropWhile_eq_self_of_head {t : Text} (h : ∀ c ∈ t.head?, isBlank c = false) :
    t.dropWhile isBlank = t := by
  cases t with
  | nil => rfl
  | cons c t => exact List.dropWhile_cons_of_neg (by simp [h c rfl])

theorem exists_blanks_dropWhile (t : Text) : ∃ b, AllBlank b ∧ t = b ++ t.dropWhile isBlank :=
  ⟨t.takeWhile isBlank, allBlank_takeWhile t, List.takeWhile_append_dropWhile.symm⟩

/-- What trimming takes away behind the first character is blank. -/
theorem exists_strip_append (t : Text) : ∃ b, AllBlank b ∧ t.dropWhile isBlank = t.strip ++ b := by
  refine ⟨((t.dropWhile isBlank).reverse.takeWhile isBlank).reverse, (allBlank_takeWhile _).reverse, ?_⟩
  unfold strip dropEndWhile
  rw [← List.reverse_append, List.takeWhile_append_dropWhile, List.reverse_reverse]

/-- What trimming takes away is blank. -/
theorem exists_blanks_strip (t : Text) :
    ∃ b₁ b₂, AllBlank b₁ ∧ AllBlank b₂ ∧ t = b₁ ++ (t.strip ++ b₂) := by
  obtain ⟨b₁, hb₁, ht⟩ := exists_blanks_dropWhile t
  obtain ⟨b₂, hb₂, hstrip⟩ := exists_strip_append t
  exact ⟨b₁, b₂, hb₁, hb₂, by rw [← hstrip, ← ht]⟩

/-- Trimming leaves a trimmed text. -/
theorem trimmed_strip (t : Text) : Trimmed t.strip := by
  constructor
  · intro c hc
    refine isBlank_head_dropWhile (t := t) c ?_
    obtain ⟨b, -, hb⟩ := exists_strip_append t
    obtain ⟨v, hv⟩ := List.head?_eq_some_iff.1 (Option.mem_def.1 hc)
    rw [hb, hv]
    rfl
  · intro c hc
    unfold strip dropEndWhile at hc
    rw [List.getLast?_reverse] at hc
    exact isBlank_head_dropWhile c hc

/-- A trimmed text is what is left of it between blanks. -/
theorem strip_of_trimmed {b₁ w b₂ : Text} (h₁ : AllBlank b₁) (h₂ : AllBlank b₂) (hw : Trimmed w) :
    (b₁ ++ (w ++ b₂)).strip = w := by
  unfold strip dropEndWhile
  rw [List.dropWhile_append_of_pos h₁]
  -- The blanks at both ends are cut off up to the first and the last character, which are none.
  cases w with
  | nil =>
    rw [List.nil_append, List.dropWhile_eq_nil_iff.2 h₂]
    rfl
  | cons c w =>
    rw [dropWhile_eq_self_of_head (t := c :: w ++ b₂) (fun d hd => hw.head d hd),
      List.reverse_append,
      List.dropWhile_append_of_pos h₂.reverse,
      dropWhile_eq_self_of_head (fun d hd => hw.last d (by rwa [← List.head?_reverse])),
      List.reverse_reverse]

/-- Trimming leaves a trimmed text as it is. -/
theorem strip_eq_self {w : Text} (hw : Trimmed w) : w.strip = w := by
  simpa using strip_of_trimmed allBlank_nil allBlank_nil hw

/-- Nothing is left of blanks. -/
theorem strip_eq_nil {b : Text} (h : AllBlank b) : b.strip = [] := by
  simpa using strip_of_trimmed h allBlank_nil (w := []) ⟨by simp, by simp⟩

/-- Blanks at its ends do not count for a text that is trimmed. -/
theorem strip_blanks_append {b₁ b₂ : Text} (h₁ : AllBlank b₁) (h₂ : AllBlank b₂) (t : Text) :
    (b₁ ++ (t ++ b₂)).strip = t.strip := by
  obtain ⟨c₁, c₂, hc₁, hc₂, ht⟩ := exists_blanks_strip t
  have hsplit : b₁ ++ (t ++ b₂) = (b₁ ++ c₁) ++ (t.strip ++ (c₂ ++ b₂)) := by
    conv_lhs => rw [ht]
    simp only [List.append_assoc]
  rw [hsplit]
  exact strip_of_trimmed (allBlank_append.2 ⟨h₁, hc₁⟩) (allBlank_append.2 ⟨hc₂, h₂⟩) (trimmed_strip t)

theorem mem_of_mem_strip {t : Text} {c : Char} (h : c ∈ t.strip) : c ∈ t := by
  obtain ⟨b₁, b₂, -, -, ht⟩ := exists_blanks_strip t
  rw [ht]
  simp [h]

/-- Trimming leaves the first character, if it is no blank. -/
theorem head?_strip {c : Char} {t : Text} (hc : isBlank c = false) : (strip (c :: t)).head? = some c := by
  obtain ⟨b, hb, hstrip⟩ := exists_strip_append (c :: t)
  rw [dropWhile_eq_self_of_head (by simpa using hc)] at hstrip
  cases hhead : strip (c :: t) with
  | nil =>
    rw [hhead, List.nil_append] at hstrip
    have hblank := hb c (hstrip ▸ List.mem_cons_self)
    rw [hc] at hblank
    cases hblank
  | cons d more =>
    rw [hhead, List.cons_append] at hstrip
    rw [← (List.cons.inj hstrip).1]
    rfl

end LuaAccessors.Text
