import Mathlib.Data.List.Infix
import Mathlib.Data.List.TakeWhile
import LuaAccessors.Declaration
import LuaAccessors.Proofs.Lexis.Mode
import LuaAccessors.Proofs.Text.Cut

/-!
# Assignments

An assignment is recognised by the plain characters in front of its value: an optional `local`, a name,
blanks and an equality sign. So the value is the end of its line, and it is read as the line is.

- `exists_of_assignment`: what stands in front of the value of an assignment;
- `ofLine?_assignment`: a name, blanks, an equality sign and a value are an assignment.
-/

namespace LuaAccessors

open Lexis

/-! ## §1 The parts of an assignment -/

theorem isPlain_of_isNamePart {c : Char} (h : isNamePart c = true) : isPlain c = true := by
  have hne : ∀ d : Char, isNamePart d = false → c ≠ d := by
    rintro d hd rfl
    rw [h] at hd
    cases hd
  simp [isPlain, isBare, isQuote, isBrace, hne '"' rfl, hne '\'' rfl, hne '[' rfl, hne '-' rfl,
    hne '{' rfl, hne '}' rfl]

theorem toNat_of_isNamePart {c : Char} (h : isNamePart c = true) : 48 ≤ c.toNat ∧ c.toNat ≤ 122 := by
  change (((decide ('A'.val ≤ c.val ∧ c.val ≤ 'Z'.val) ||
    (decide ('a'.val ≤ c.val) && decide (c.val ≤ 'z'.val))) ||
    (decide ('0'.val ≤ c.val) && decide (c.val ≤ '9'.val))) || c == '_') = true at h
  simp only [Bool.or_eq_true, Bool.and_eq_true, decide_eq_true_eq, UInt32.le_iff_toNat_le,
    beq_iff_eq] at h
  change (((65 ≤ c.toNat ∧ c.toNat ≤ 90) ∨ (97 ≤ c.toNat ∧ c.toNat ≤ 122)) ∨
    (48 ≤ c.toNat ∧ c.toNat ≤ 57)) ∨ c = '_' at h
  -- Large letters, small letters, digits and the underscore all lie between these two code points.
  rcases h with ((h | h) | h) | rfl
  · omega
  · omega
  · omega
  · decide

theorem isBlank_eq_false_of_isNamePart {c : Char} (h : isNamePart c = true) : isBlank c = false := by
  obtain ⟨hlow, hhigh⟩ := toNat_of_isNamePart h
  rw [Bool.eq_false_iff]
  intro hblank
  simp only [isBlank, Bool.or_eq_true, Bool.and_eq_true, decide_eq_true_eq, beq_iff_eq] at hblank
  omega

theorem isNamePart_eq_false_of_isBlank {c : Char} (h : isBlank c = true) : isNamePart c = false := by
  rw [Bool.eq_false_iff]
  intro hpart
  rw [isBlank_eq_false_of_isNamePart hpart] at h
  cases h

/-- What can stand in front of a declaration to mark it as local: nothing, or a word with blanks behind it. -/
inductive Mark : Bool → Text → Prop where
  | unmarked : Mark false []
  | word {blanks : Text} (hne : blanks ≠ []) (hblanks : Text.AllBlank blanks) :
      Mark true (localKeyword ++ blanks)

theorem Mark.isPlain {isLocal : Bool} {mark : Text} (h : Mark isLocal mark) :
    ∀ c ∈ mark, isPlain c = true := by
  cases h with
  | unmarked => simp
  | word _ hblanks =>
    intro c hc
    rcases List.mem_append.1 hc with hc | hc
    · exact List.all_eq_true.1 (by decide : localKeyword.all Lexis.isPlain = true) c hc
    · exact isPlain_of_isBlank (hblanks c hc)

/-- Blanks are left out only if there are some. -/
theorem eq_append_of_afterBlanks? {t rest : Text} (h : afterBlanks? t = some rest) :
    ∃ blanks, t = blanks ++ rest ∧ blanks ≠ [] ∧ Text.AllBlank blanks := by
  cases t with
  | nil => cases h
  | cons b t =>
    simp only [afterBlanks?] at h
    split at h
    case isFalse => cases h
    rename_i hb
    obtain ⟨blanks, hblanks, ht⟩ := Text.exists_blanks_dropWhile t
    rw [Option.some.inj h] at ht
    exact ⟨b :: blanks, by rw [ht]; rfl, by simp, Text.allBlank_cons.2 ⟨hb, hblanks⟩⟩

/-- A line is its mark as local and what is left without the mark; behind a word there is a name. -/
theorem exists_mark (line : Text) :
    ∃ mark, line = mark ++ (splitLocal line).2 ∧ Mark (splitLocal line).1 mark ∧
      ((splitLocal line).1 = true → ∃ c rest, (splitLocal line).2 = c :: rest ∧ isNameStart c = true) := by
  unfold splitLocal
  split
  · rename_i c rest h
    split
    · rename_i hc
      obtain ⟨behind, hkeyword, hblanks⟩ := Option.bind_eq_some_iff.1 h
      obtain ⟨blanks, rfl, hne, hall⟩ := eq_append_of_afterBlanks? hblanks
      have hline := List.append_eq_of_isPrefixOf?_eq_some hkeyword
      refine ⟨localKeyword ++ blanks, ?_, .word hne hall, fun _ => ⟨c, rest, rfl, hc⟩⟩
      rw [← hline, List.append_assoc]
    · exact ⟨[], rfl, .unmarked, by simp⟩
  · exact ⟨[], rfl, .unmarked, by simp⟩

theorem exists_splitLocal (line : Text) :
    ∃ w, line = w ++ (splitLocal line).2 ∧ ∀ c ∈ w, isPlain c = true := by
  obtain ⟨mark, hline, hmark, -⟩ := exists_mark line
  exact ⟨mark, hline, hmark.isPlain⟩

theorem eq_append_of_takeName? {t name rest : Text} (h : takeName? t = some (name, rest)) :
    t = name ++ rest ∧ ∀ c ∈ name, isNamePart c = true := by
  cases t with
  | nil => cases h
  | cons c t =>
    simp only [takeName?] at h
    split at h
    case isFalse => cases h
    rename_i hc
    obtain ⟨rfl, rfl⟩ := Prod.mk.inj (Option.some.inj h)
    refine ⟨by simp, fun d hd => ?_⟩
    rcases List.mem_cons.1 hd with rfl | hd
    · exact isNamePart_of_isNameStart hc
    · exact List.mem_takeWhile_imp hd

/-- On a single line the value is all that follows the equality sign, trimmed. -/
theorem assignedValue?_of_no_feed {t : Text} (h : '\n' ∉ t) :
    assignedValue? t = if t = [] then none else some t.strip := by
  have hlast : t.getLast? ≠ some '\n' := fun h' => h (List.mem_of_getLast? h')
  simp only [assignedValue?]
  rw [if_neg hlast, Text.splitOn_eq_self h]
  cases t <;> simp

/-! ## §2 The value -/

theorem function?_ne_assignment (line name value : Text) (isLocal : Bool) :
    Declaration.function? line ≠ some (.assignment name value isLocal) := by
  intro h
  unfold Declaration.function? at h
  simp only [Option.bind_eq_bind, Option.bind_eq_some_iff] at h
  obtain ⟨r₁, -, r₂, -, r₃, -, h⟩ := h
  split at h
  · split at h <;> cases h
  · cases h

/-- **The value of an assignment.** It is what stands behind some plain characters. -/
theorem exists_of_assignment {line name value : Text} {isLocal : Bool}
    (h : Declaration.ofLine? line = some (.assignment name value isLocal)) (hfeed : '\n' ∉ line)
    (htrimmed : Text.Trimmed line) :
    ∃ w, line = w ++ value ∧ (∀ c ∈ w, isPlain c = true) ∧ Text.Trimmed value := by
  -- The parts of the line, from its start to the equality sign.
  obtain ⟨w₁, hline, hw₁⟩ := exists_splitLocal line
  have hassign : Declaration.assignment? line = some (.assignment name value isLocal) := by
    rcases Option.or_eq_some_iff.1 h with hf | ⟨-, ha⟩
    · exact absurd hf (function?_ne_assignment _ _ _ _)
    · exact ha
  unfold Declaration.assignment? at hassign
  simp only [Option.bind_eq_bind, Option.bind_eq_some_iff] at hassign
  obtain ⟨⟨word, behind⟩, hname, hassign⟩ := hassign
  obtain ⟨hrest, hword⟩ := eq_append_of_takeName? hname
  obtain ⟨blanks, hblanks, hbehind⟩ := Text.exists_blanks_dropWhile behind
  dsimp only at hassign
  split at hassign
  case h_2 => cases hassign
  rename_i t' ht
  obtain ⟨t, rfl⟩ : ∃ t : Text, t = t' := ⟨t', rfl⟩
  rw [ht] at hbehind
  split at hassign
  case isTrue => cases hassign
  -- What follows the equality sign is on the same line.
  have hall : line = (w₁ ++ (word ++ (blanks ++ ['=']))) ++ t := by
    rw [hline, hrest, hbehind]
    simp
  have ht_feed : '\n' ∉ t := fun h' => hfeed (by rw [hall]; simp [h'])
  obtain ⟨v, hv, hdeclared⟩ := Option.map_eq_some_iff.1 hassign
  rw [assignedValue?_of_no_feed ht_feed] at hv
  split at hv
  case isTrue => cases hv
  obtain rfl : t.strip = v := Option.some.inj hv
  obtain ⟨-, rfl, -⟩ := Declaration.assignment.inj hdeclared
  -- The line is trimmed, so no blanks are behind the value.
  obtain ⟨b₁, b₂, hb₁, hb₂, hstrip⟩ := Text.exists_blanks_strip t
  have hb₂_nil : b₂ = [] := by
    rcases List.eq_nil_or_concat' b₂ with hnil | ⟨b, c, rfl⟩
    · exact hnil
    · have hc : isBlank c = true := hb₂ c (by simp)
      have hlast := htrimmed.last c (by rw [hall, hstrip]; simp [← List.append_assoc])
      rw [hc] at hlast
      cases hlast
  refine ⟨w₁ ++ (word ++ (blanks ++ ['='])) ++ b₁, ?_, fun c hc => ?_, Text.trimmed_strip t⟩
  · rw [hb₂_nil, List.append_nil] at hstrip
    rw [List.append_assoc, ← hstrip]
    exact hall
  · simp only [List.mem_append, List.mem_singleton] at hc
    rcases hc with (hc | hc | hc | rfl) | hc
    · exact hw₁ c hc
    · exact isPlain_of_isNamePart (hword c hc)
    · exact isPlain_of_isBlank (hblanks c hc)
    · rfl
    · exact isPlain_of_isBlank (hb₁ c hc)

/-! ## §3 Reading an assignment

The converse. A line that is put together from the parts of an assignment could still be taken for something
else if its name were one of the keywords, so both keywords are shown not to be read.
-/

section

variable {name b u : Text} (hname : ∀ c ∈ name, isNamePart c = true) (hb : Text.AllBlank b)

include hb

/-- Behind a name there is no character of a name. -/
theorem dropWhile_isNamePart_eq_self :
    (b ++ '=' :: u).dropWhile isNamePart = b ++ '=' :: u ∧
      (b ++ '=' :: u).takeWhile isNamePart = [] := by
  cases b with
  | nil => exact ⟨rfl, rfl⟩
  | cons c b =>
    have hc := isNamePart_eq_false_of_isBlank (hb c List.mem_cons_self)
    simp [hc]

include hname

/-- A keyword with blanks behind it is read only in front of the equality sign. -/
theorem afterKeyword_of_assignment {keyword rest : Text}
    (hkeyword : ∀ c ∈ keyword, isNamePart c = true)
    (h : (keyword.isPrefixOf? (name ++ (b ++ '=' :: u))).bind afterBlanks? = some rest) :
    rest = '=' :: u := by
  obtain ⟨behind, hprefix, hblanks⟩ := Option.bind_eq_some_iff.1 h
  have hline := List.append_eq_of_isPrefixOf?_eq_some hprefix
  cases behind with
  | nil => cases hblanks
  | cons d behind =>
    simp only [afterBlanks?] at hblanks
    split at hblanks
    case isFalse => cases hblanks
    rename_i hd
    -- The keyword and the name both end where the first blank is.
    have hpart := isNamePart_eq_false_of_isBlank hd
    have hdrop := congrArg (List.dropWhile isNamePart) hline
    rw [List.dropWhile_append_of_pos hkeyword, List.dropWhile_append_of_pos hname,
      (dropWhile_isNamePart_eq_self hb).1, List.dropWhile_cons_of_neg (by simp [hpart])] at hdrop
    obtain rfl := Option.some.inj hblanks
    cases b with
    | nil =>
      obtain ⟨rfl, -⟩ := List.cons.inj hdrop
      cases hd
    | cons e b =>
      obtain ⟨-, rfl⟩ := List.cons.inj hdrop
      exact List.dropWhile_append_of_pos fun c hc => hb c (List.mem_cons_of_mem _ hc)

/-- **An assignment is read** as its name and its value. -/
theorem ofLine?_assignment {first : Char} {others : Text} (heq : name = first :: others)
    (hfirst : isNameStart first = true) (hfeed : '\n' ∉ u) (hu : u ≠ [])
    (hsign : u.head? ≠ some '=') :
    Declaration.ofLine? (name ++ (b ++ '=' :: u)) = some (.assignment name u.strip false) := by
  -- Nor does the word `local` mark it: the text behind such a mark would start with the equality sign.
  have hlocal : splitLocal (name ++ (b ++ '=' :: u)) = (false, name ++ (b ++ '=' :: u)) := by
    have hkeyword : ∀ c ∈ localKeyword, isNamePart c = true :=
      List.all_eq_true.1 (by decide : localKeyword.all isNamePart = true)
    unfold splitLocal
    split
    · rename_i c rest h
      obtain ⟨rfl, rfl⟩ := List.cons.inj (afterKeyword_of_assignment hname hb hkeyword h)
      rfl
    · rfl
  -- The name ends where it should, since a blank or the equality sign follows it.
  have htake : takeName? (name ++ (b ++ '=' :: u)) = some (name, b ++ '=' :: u) := by
    have hothers : ∀ c ∈ others, isNamePart c = true :=
      fun c hc => hname c (heq ▸ List.mem_cons_of_mem _ hc)
    obtain ⟨hdrop, htake⟩ := @dropWhile_isNamePart_eq_self b u hb
    rw [heq, List.cons_append, takeName?, if_pos hfirst, List.takeWhile_append_of_pos hothers,
      List.dropWhile_append_of_pos hothers, hdrop, htake, List.append_nil]
  -- With these the line has the shape of an assignment, if only no second equality sign follows the first one.
  have hassign : Declaration.assignment? (name ++ (b ++ '=' :: u)) =
      some (.assignment name u.strip false) := by
    have hdrop : (b ++ '=' :: u).dropWhile isBlank = '=' :: u := List.dropWhile_append_of_pos hb
    have hvalue := assignedValue?_of_no_feed hfeed
    rw [if_neg hu] at hvalue
    simp [Declaration.assignment?, hlocal, htake, hdrop, hsign, hvalue]
  -- The word `function` opens no function here, since no name follows it.
  have hfunction : Declaration.function? (name ++ (b ++ '=' :: u)) = none := by
    have hkeyword : ∀ c ∈ functionKeyword, isNamePart c = true :=
      List.all_eq_true.1 (by decide : functionKeyword.all isNamePart = true)
    rw [Option.eq_none_iff_forall_ne_some]
    intro d h
    unfold Declaration.function? at h
    simp only [hlocal, Option.bind_eq_bind, Option.bind_eq_some_iff] at h
    obtain ⟨behind, hprefix, rest, hblanks, ⟨word, more⟩, hword, -⟩ := h
    have hrest := afterKeyword_of_assignment hname hb hkeyword
      (Option.bind_eq_some_iff.2 ⟨behind, hprefix, hblanks⟩)
    rw [hrest] at hword
    cases hword
  rw [Declaration.ofLine?, hfunction, hassign]
  rfl

end

end LuaAccessors
