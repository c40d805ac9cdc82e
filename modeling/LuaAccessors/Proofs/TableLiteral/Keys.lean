import LuaAccessors.Proofs.Lexis.Standalone
import LuaAccessors.TableLiteral.Field

/-!
# The keys of table entries

An entry is cut at the first equality sign that its mask shows, and the text in front of the cut is the key.
Read on its own, the key may be read differently from the way it is read inside the entry, because a long
bracket can reach across the cut. The cut is then at the first equality sign of the bracket, so the key still
shows none.

- `IsKey`: what is known of a key;
- `step_append_or`: how far one step can see;
- `not_shows_sign`: a text that shows no equality sign as the start of a longer one shows none on its own;
- `isKey_of_splitKeyed?`: the key of an entry.
-/

namespace LuaAccessors

namespace Lexis

/-! ## §1 Brackets across a cut -/

/-- A bracket stands in front of a cut, or only equality signs stand between its start and the cut. -/
theorem bracket_prefix_append {x c : Char} {level : Nat} {t u : Text} (ht : t ≠ [])
    (h : x :: (List.replicate level '=' ++ [x]) <+: c :: (t ++ u)) :
    x :: (List.replicate level '=' ++ [x]) <+: c :: t ∨ t.head? = some '=' := by
  refine (bracket_prefix_append_or h).imp_right fun ⟨_, hsigns, _⟩ => ?_
  obtain ⟨d, t, rfl⟩ := List.exists_cons_of_ne_nil ht
  rw [hsigns]
  rfl

/-- An opener is found in front of a cut as it is found in the whole text, or the cut is inside it. -/
theorem bracketLevel_append_or {c : Char} {t : Text} (ht : t ≠ []) (u : Text) :
    bracketLevel (c :: (t ++ u)) = bracketLevel (c :: t) ∨
      t.head? = some '=' ∧ ∃ level, bracketLevel (c :: (t ++ u)) = some level := by
  -- What is found in the whole text is found in front of the cut, unless the cut is among its equality signs.
  cases hlong : bracketLevel (c :: (t ++ u)) with
  | some level =>
    rcases bracket_prefix_append ht (bracketLevel_eq_some_iff.1 hlong) with hopener | hsign
    · exact .inl (bracketLevel_eq_some_iff.2 hopener).symm
    · exact .inr ⟨hsign, level, rfl⟩
  | none =>
    left
    cases hshort : bracketLevel (c :: t) with
    | none => rfl
    | some level =>
      have hopener := (bracketLevel_eq_some_iff.1 hshort).trans (List.prefix_append (c :: t) u)
      have hfound : bracketLevel (c :: (t ++ u)) = some level := bracketLevel_eq_some_iff.2 hopener
      rw [hlong] at hfound
      cases hfound

/-- A closer is found in front of a cut as it is found in the whole text, or the cut is inside it. -/
theorem closer_append_or {c : Char} {t : Text} (ht : t ≠ []) (level : Nat) (u : Text) :
    (bracketCloser level).isPrefixOf (c :: (t ++ u)) = (bracketCloser level).isPrefixOf (c :: t) ∨
      t.head? = some '=' ∧ (bracketCloser level).isPrefixOf (c :: (t ++ u)) = true := by
  rw [Bool.eq_iff_iff, List.isPrefixOf_iff_prefix, List.isPrefixOf_iff_prefix]
  by_cases hlong : bracketCloser level <+: c :: (t ++ u)
  · rcases bracket_prefix_append ht hlong with hcloser | hsign
    · exact .inl ⟨fun _ => hcloser, fun _ => hlong⟩
    · exact .inr ⟨hsign, hlong⟩
  · have hshort : ¬bracketCloser level <+: c :: t := fun h =>
      hlong (h.trans (List.prefix_append (c :: t) u))
    exact .inl ⟨fun h => absurd h hlong, fun h => absurd h hshort⟩

/-- The rest of a delimiter, which the mask shows. -/
def Mode.IsShownDelimiter (mode : Mode) : Prop :=
  ∃ left role next, mode = .within left role next ∧ role ≠ .content

/-- A step depends on what follows a cut only where a bracket starts whose equality signs are next. -/
theorem step_append_or (mode : Mode) (c : Char) {t : Text} (ht : t ≠ []) (u : Text) :
    mode.step false c (t ++ u) = mode.step false c t ∨
      t.head? = some '=' ∧ (mode.step false c (t ++ u)).2.IsShownDelimiter := by
  -- Only three modes look ahead further than one character, each for a long bracket.
  cases mode with
  | code =>
    cases hquote : isQuote c with
    | true => exact .inl (by simp [Mode.step, hquote])
    | false =>
      rcases bracketLevel_append_or (c := c) ht u with hlevel | ⟨hsign, level, hlevel⟩
      · exact .inl (by simp [Mode.step, hquote, hlevel])
      · refine .inr ⟨hsign, level, .delimiter, .longString level, ?_, by simp⟩
        simp [Mode.step, hquote, hlevel]
  | escaped quote =>
    obtain ⟨d, t, rfl⟩ := List.exists_cons_of_ne_nil ht
    exact .inl rfl
  | longString level =>
    rcases closer_append_or (c := c) ht level u with hcloser | ⟨hsign, hcloser⟩
    · exact .inl (by simp [Mode.step, hcloser])
    · refine .inr ⟨hsign, level, .delimiter, .code, ?_, by simp⟩
      simp [Mode.step, hcloser]
  | blockComment level =>
    rcases closer_append_or (c := c) ht level u with hcloser | ⟨hsign, hcloser⟩
    · exact .inl (by simp [Mode.step, hcloser])
    · refine .inr ⟨hsign, level, .comment, .code, ?_, by simp⟩
      simp [Mode.step, hcloser]
  | within left role next => cases left <;> exact .inl rfl
  | _ => exact .inl rfl

/-! ## §2 Equality signs that a mask shows -/

/-- Whether an equality sign is shown is decided without a look at what follows it. -/
theorem step_sign {mode : Mode} {t : Text} (hsound : mode.Sound ('=' :: t)) (u : Text) :
    (mode.step false '=' u).1 = (mode.step false '=' t).1 := by
  -- An equality sign starts no bracket, so no mode looks further.
  cases mode with
  | code => simp [Mode.step, isQuote, bracketLevel_cons_eq_none]
  | escaped quote =>
    have hne : '=' ≠ quote := by
      rintro rfl
      cases hsound
    simp [Mode.step, hne]
  | longString level => simp [Mode.step, closer_isPrefixOf_cons_eq_false]
  | blockComment level => simp [Mode.step, closer_isPrefixOf_cons_eq_false]
  | within left role next => cases left <;> rfl
  | _ => rfl

theorem Mode.IsShownDelimiter.shows {mode : Mode} (h : mode.IsShownDelimiter) (c : Char) (t : Text) :
    maskChar c (mode.step false c t).1 = c := by
  obtain ⟨left, role, next, rfl, hrole⟩ := h
  cases left <;> simp [Mode.step, maskChar, hrole]

/-- **A cut in front of an equality sign.** A text that shows no equality sign as the start of a longer one
shows none on its own. -/
theorem not_shows_sign {mode : Mode} {t u : Text} (hsound : mode.Sound (t ++ u))
    (h : ∀ p ∈ (markedFrom mode (t ++ u)).take t.length, p.2 ≠ '=') :
    ∀ p ∈ markedFrom mode t, p.2 ≠ '=' := by
  induction t generalizing mode with
  | nil => simp
  | cons c t ih =>
    rw [List.cons_append, markedFrom_cons, List.length_cons, List.take_succ_cons] at h
    have hnext : (mode.step false c (t ++ u)).2.Sound (t ++ u) := sound_step false hsound
    obtain ⟨hc, hrest⟩ := List.forall_mem_cons.1 h
    rw [markedFrom_cons, List.forall_mem_cons]
    by_cases ht : t = []
    · -- The last character in front of the cut shows itself, or a space as any other content.
      subst ht
      refine ⟨fun hshown => ?_, by simp⟩
      rcases maskChar_eq_or c (mode.step false c []).1 with heq | heq
      · obtain rfl : c = '=' := heq.symm.trans hshown
        rw [step_sign hsound] at hshown
        exact hc hshown
      · rw [heq] at hshown
        cases hshown
    · rcases step_append_or mode c ht u with hstep | ⟨hsign, hshown⟩
      · rw [hstep] at hc hrest hnext
        exact ⟨hc, ih hnext hrest⟩
      · -- Inside a bracket across the cut an equality sign would be shown.
        obtain ⟨t, rfl⟩ := List.head?_eq_some_iff.1 hsign
        rw [List.cons_append, markedFrom_cons, List.length_cons, List.take_succ_cons] at hrest
        exact absurd (hshown.shows _ _) (List.forall_mem_cons.1 hrest).1

end Lexis

namespace TableLiteral

open Lexis

/-! ## §3 Keys -/

/-- A key: trimmed and not empty, with no equality sign outside literals. -/
structure IsKey (name : Text) : Prop where
  ne_nil : name ≠ []
  trimmed : Text.Trimmed name
  not_shows : '=' ∉ mask name

theorem not_mem_mask {t : Text} (h : ∀ p ∈ marked t, p.2 ≠ '=') : '=' ∉ mask t := by
  rw [← map_snd_marked]
  intro hmem
  obtain ⟨p, hp, hshown⟩ := List.mem_map.1 hmem
  exact h p hp hshown

/-- The start of an entry that shows no equality sign shows none on its own. -/
theorem not_shows_of_prefix {entry : Text} {front : Marked} (hfront : front <+: marked entry)
    (h : ∀ p ∈ front, p.2 ≠ '=') : ∀ p ∈ marked front.text, p.2 ≠ '=' := by
  obtain ⟨rest, hmarked⟩ := hfront
  have hentry : entry = front.text ++ Marked.text rest := by
    rw [← text_marked entry, ← hmarked]
    exact List.map_append
  have hsound : Mode.code.Sound (front.text ++ Marked.text rest) := trivial
  apply not_shows_sign hsound
  rw [← hentry, ← marked_eq, ← hmarked, Marked.text, List.length_map, List.take_left]
  exact h

/-- Trimming a text uncovers no equality sign. -/
theorem not_shows_strip {t : Text} (h : ∀ p ∈ marked t, p.2 ≠ '=') :
    ∀ p ∈ marked t.strip, p.2 ≠ '=' := by
  obtain ⟨b₁, b₂, hb₁, -, ht⟩ := Text.exists_blanks_strip t
  rw [marked_eq, ht, (inCode_of_allBlank hb₁).standalone.markedFrom_append] at h
  have hsound : Mode.code.Sound (t.strip ++ b₂) := trivial
  apply not_shows_sign hsound
  intro p hp
  exact h p (List.mem_append_right _ (List.mem_of_mem_take hp))

/-- **The key of an entry.** -/
theorem isKey_of_splitKeyed? {entry name value : Text}
    (h : splitKeyed? entry = some (name, value)) : IsKey name := by
  simp only [splitKeyed?] at h
  split at h
  · cases h
  split at h
  · cases h
  rename_i hempty
  obtain ⟨rfl, -⟩ := Prod.mk.inj (Option.some.inj h)
  constructor
  case ne_nil => simpa using hempty
  case trimmed => exact Text.trimmed_strip _
  -- The key ends in front of the first sign that the mask of the entry shows. Read by itself it could show one
  -- only where a bracket is cut off, and then the sign would have been shown before.
  case not_shows =>
    apply not_mem_mask
    apply not_shows_strip
    apply not_shows_of_prefix (List.takeWhile_prefix _)
    intro p hp
    simpa using List.mem_takeWhile_imp hp

end TableLiteral

end LuaAccessors
