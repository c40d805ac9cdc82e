import Mathlib.Data.List.Induction
import Mathlib.Data.List.TakeWhile
import Mathlib.Tactic.Common
import LuaAccessors.Lexis.LongBracket

/-!
# What a long bracket depends on

Whether a long bracket opens or closes somewhere is decided by a word that stands there. So the
answer is the same for every longer text, and a character that is part of no bracket ends the
search for one.
-/

namespace LuaAccessors.Lexis

/-! ## §1 Words at the start of a text -/

/-- A word without the character `b` does not reach beyond it. -/
theorem prefix_append_cons_iff {w : Text} {b : Char} (hw : b ∉ w) (t u : Text) :
    w <+: t ++ b :: u ↔ w <+: t := by
  induction t generalizing w with
  | nil =>
    cases w with
    | nil => simp
    | cons c w =>
      have hc : c ≠ b := fun h => hw (h ▸ List.mem_cons_self)
      simp [List.cons_prefix_cons, hc]
  | cons d t ih =>
    cases w with
    | nil => simp
    | cons c w =>
      have hw' : b ∉ w := fun h => hw (List.mem_cons_of_mem _ h)
      simp [List.cons_prefix_cons, ih hw']

/-- A word that stands at the start of a text is there whatever follows it. -/
theorem prefix_cons_append_of_length_le {w v more : Text} {c : Char} (h : w <+: c :: (v ++ more))
    (hlength : w.length ≤ v.length + 1) (u : Text) : w <+: c :: (v ++ u) := by
  have hword : w <+: c :: v :=
    List.prefix_of_prefix_length_le h (List.prefix_append (c :: v) more) hlength
  exact hword.trans (List.prefix_append (c :: v) u)

/-- What stands behind an opener or a closer at the start of a text, which is cut behind its first
character. -/
theorem exists_of_prefix_cons {w t : Text} {c : Char} {n : Nat} (hw : w.length = n + 2)
    (h : w <+: c :: t) : ∃ v more, t = v ++ more ∧ v.length = n + 1 := by
  obtain ⟨more, hmore⟩ := h
  obtain ⟨d, v, rfl⟩ := List.exists_cons_of_length_eq_add_one hw
  obtain ⟨-, rfl⟩ := List.cons.inj hmore
  exact ⟨v, more, rfl, by simpa using hw⟩

/-- The second character of a bracket stands behind its equality signs. -/
theorem getElem?_of_bracket {x c : Char} {level : Nat} {rest : Text}
    (h : x :: (List.replicate level '=' ++ [x]) <+: c :: rest) : rest[level]? = some x := by
  obtain ⟨more, hmore⟩ := h
  rw [List.cons_append] at hmore
  rw [← (List.cons.inj hmore).2]
  simp

/-- A bracket stands in front of a cut, or the cut is among its equality signs. -/
theorem bracket_prefix_append_or {x c : Char} {level : Nat} {t u : Text}
    (h : x :: (List.replicate level '=' ++ [x]) <+: c :: (t ++ u)) :
    x :: (List.replicate level '=' ++ [x]) <+: c :: t ∨
      c = x ∧ t = List.replicate t.length '=' ∧ ∃ signs, List.replicate signs '=' ++ [x] <+: u := by
  obtain ⟨rfl, hsigns⟩ := List.cons_prefix_cons.1 h
  -- Of the rest of the bracket and the text in front of the cut one is the start of the other.
  rcases List.prefix_or_prefix_of_prefix hsigns (List.prefix_append t u) with hfront | ⟨v, hv⟩
  · exact .inl (List.cons_prefix_cons.2 ⟨rfl, hfront⟩)
  cases v using List.reverseRecOn with
  | nil =>
    rw [List.append_nil] at hv
    exact .inl (List.cons_prefix_cons.2 ⟨rfl, hv ▸ List.prefix_rfl⟩)
  | append_singleton v d =>
    -- The bracket is longer, so in front of the cut there are equality signs only, and its last character is
    -- behind it.
    right
    rw [← List.append_assoc] at hv
    obtain ⟨hsplit, hd⟩ := List.append_inj' hv rfl
    obtain rfl := (List.cons.inj hd).1
    obtain ⟨-, ht, hrest⟩ := List.append_eq_replicate_iff.1 hsplit
    rw [← hsplit, hrest, List.append_assoc] at hsigns
    exact ⟨rfl, ht, v.length, (List.prefix_append_right_inj t).1 hsigns⟩

/-! ## §2 Openers -/

@[simp] theorem length_bracketOpener (level : Nat) : (bracketOpener level).length = level + 2 := by
  simp [bracketOpener]

@[simp] theorem length_bracketCloser (level : Nat) : (bracketCloser level).length = level + 2 := by
  simp [bracketCloser]

theorem mem_bracketOpener {level : Nat} {c : Char} (h : c ∈ bracketOpener level) :
    c = '[' ∨ c = '=' := by
  simp [bracketOpener] at h
  tauto

theorem mem_bracketCloser {level : Nat} {c : Char} (h : c ∈ bracketCloser level) :
    c = ']' ∨ c = '=' := by
  simp [bracketCloser] at h
  tauto

/-- A long bracket of level `k` opens where the opener of level `k` stands, and only there. -/
theorem bracketLevel_eq_some_iff {t : Text} {level : Nat} :
    bracketLevel t = some level ↔ bracketOpener level <+: t := by
  constructor
  · intro h
    unfold bracketLevel at h
    split at h
    case h_2 => cases h
    rename_i rest
    dsimp only at h
    split at h
    case isFalse => cases h
    rename_i hhead
    cases h
    obtain ⟨others, hothers⟩ := List.takeWhile_prefix (· == '=') (l := rest)
    -- The level counts the equality signs behind the first bracket, and another bracket has to follow them.
    have hsigns : rest.takeWhile (· == '=') =
        List.replicate (rest.takeWhile (· == '=')).length '=' := by
      refine List.eq_replicate_of_mem fun c hc => ?_
      simpa using List.mem_takeWhile_imp hc
    have hdrop : rest.drop (rest.takeWhile (· == '=')).length = others := by
      conv_lhs => rw [← hothers]
      exact List.drop_left' (by rw [hothers])
    rw [hdrop] at hhead
    obtain ⟨tail, rfl⟩ := List.head?_eq_some_iff.1 hhead
    refine ⟨tail, ?_⟩
    rw [bracketOpener, ← hsigns, List.append_assoc, List.cons_append, List.singleton_append,
      hothers]
  · rintro ⟨rest, rfl⟩
    exact bracketLevel_opener level rest

/-- A character that is part of no opener ends the search for one. -/
theorem bracketLevel_append_cons {b : Char} (h₁ : b ≠ '[') (h₂ : b ≠ '=') (t u : Text) :
    bracketLevel (t ++ b :: u) = bracketLevel t := by
  refine Option.ext fun level => ?_
  rw [bracketLevel_eq_some_iff, bracketLevel_eq_some_iff]
  refine prefix_append_cons_iff (fun h => ?_) t u
  rcases mem_bracketOpener h with rfl | rfl
  · exact h₁ rfl
  · exact h₂ rfl

/-- Only `[` starts an opener. -/
theorem bracketLevel_cons_eq_none {c : Char} (h : c ≠ '[') (t : Text) :
    bracketLevel (c :: t) = none := by
  unfold bracketLevel
  split
  · rename_i heq
    cases heq
    exact absurd rfl h
  · rfl

theorem head_of_opener {level : Nat} {c : Char} {t : Text} (h : bracketOpener level <+: c :: t) :
    c = '[' := by
  rw [bracketOpener, List.cons_append] at h
  exact (List.cons_prefix_cons.1 h).1.symm

/-! ## §3 Closers -/

theorem head_of_closer {level : Nat} {c : Char} {t : Text} (h : bracketCloser level <+: c :: t) :
    c = ']' := by
  rw [bracketCloser, List.cons_append] at h
  exact (List.cons_prefix_cons.1 h).1.symm

/-- A character that is part of no closer ends the search for one. -/
theorem closer_isPrefixOf_append_cons {b : Char} (h₁ : b ≠ ']') (h₂ : b ≠ '=') (level : Nat)
    (t u : Text) :
    (bracketCloser level).isPrefixOf (t ++ b :: u) = (bracketCloser level).isPrefixOf t := by
  rw [Bool.eq_iff_iff, List.isPrefixOf_iff_prefix, List.isPrefixOf_iff_prefix]
  refine prefix_append_cons_iff (fun h => ?_) t u
  rcases mem_bracketCloser h with rfl | rfl
  · exact h₁ rfl
  · exact h₂ rfl

/-- Only `]` starts a closer. -/
theorem closer_isPrefixOf_cons_eq_false {c : Char} (h : c ≠ ']') (level : Nat) (t : Text) :
    (bracketCloser level).isPrefixOf (c :: t) = false := by
  simp [bracketCloser, List.isPrefixOf, Ne.symm h]

end LuaAccessors.Lexis
