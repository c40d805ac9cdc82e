import Mathlib.Data.List.Forall2
import LuaAccessors.Proofs.Declaration
import LuaAccessors.Proofs.Lexis.Spaced

/-!
# Declarations on spaced lines

A line declares the same if spaces are put between its tokens. The words in front of a value or of parameters
are whole tokens, so they stay as they are, and a space that is put behind one is a blank that may stand there
anyway; what spaces are put into are the values and the parameters.

- `Declaration.Spaced`: declarations that differ in spaces only;
- `Lexis.Spaced.splitLocal`, `Lexis.Spaced.takeName?`: the words of a line;
- `Lexis.Spaced.ofLine?`: what a spaced line declares.
-/

namespace LuaAccessors

/-- A declaration whose value or parameters have spaces put between their tokens. -/
inductive Declaration.Spaced : Declaration → Declaration → Prop
  | function {name : Text} {parameters parameters' : List Text} {isLocal : Bool}
      (hparameters : List.Forall₂ (Lexis.Spaced []) parameters parameters') :
      Declaration.Spaced (.function name parameters isLocal) (.function name parameters' isLocal)
  | assignment {name value value' : Text} {isLocal : Bool} (hvalue : Lexis.Spaced [] value value') :
      Declaration.Spaced (.assignment name value isLocal) (.assignment name value' isLocal)

namespace Lexis.Spaced

variable {before t t' : Text}

/-! ## §1 Words

Two lines that differ in spaces between words are read side by side: what is cut off at the front is equal, and
what is left differs in spaces again.
-/

theorem isBlank_eq_false_of_isNameStart {c : Char} (h : isNameStart c = true) : isBlank c = false :=
  isBlank_eq_false_of_isNamePart (isNamePart_of_isNameStart h)

/-- Behind a word and blanks a name starts in both texts, and then the same letter starts it, or in none. -/
theorem afterBlanks? (h : Spaced before t t') {x : Char} (hx : before.getLast? = some x)
    (hword : isWordPart x = true) :
    ((∀ u, LuaAccessors.afterBlanks? t = some u → ∀ c ∈ u.head?, isNameStart c = false) ∧
      ∀ u, LuaAccessors.afterBlanks? t' = some u → ∀ c ∈ u.head?, isNameStart c = false) ∨
    ∃ c u u', LuaAccessors.afterBlanks? t = some (c :: u) ∧
      LuaAccessors.afterBlanks? t' = some (c :: u') ∧ isNameStart c = true ∧
      Spaced [] (c :: u) (c :: u') := by
  -- What is left behind the blanks of the two texts starts alike.
  have hrest : ∀ u u' : Text, Spaced [] (u.dropWhile isBlank) (u'.dropWhile isBlank) →
      ((∀ c ∈ (u.dropWhile isBlank).head?, isNameStart c = false) ∧
        ∀ c ∈ (u'.dropWhile isBlank).head?, isNameStart c = false) ∨
      ∃ c v v', u.dropWhile isBlank = c :: v ∧ u'.dropWhile isBlank = c :: v' ∧ isNameStart c = true ∧
        Spaced [] (c :: v) (c :: v') := by
    intro u u' hspaced
    have hhead := hspaced.head?_eq Text.isBlank_head_dropWhile
    cases hv : u.dropWhile isBlank with
    | nil =>
      rw [hv] at hhead
      left
      rw [← hhead]
      simp
    | cons c v =>
      rw [hv] at hspaced hhead
      obtain ⟨v', hv', -⟩ := hspaced.cons_of_head Text.isBlank_head_dropWhile
      rw [hv'] at hspaced ⊢
      cases hc : isNameStart c with
      | false => simp [hc]
      | true => exact .inr ⟨c, v, v', rfl, rfl, hc, hspaced⟩
  cases h with
  | nil => simp [LuaAccessors.afterBlanks?]
  | @keep _ u u' c h =>
    cases hc : isBlank c with
    | false => simp [LuaAccessors.afterBlanks?, hc]
    | true =>
      simpa [LuaAccessors.afterBlanks?, hc] using hrest u u' h.dropWhile_isBlank
  | @space _ t u' hapart h =>
    have hspace : isBlank ' ' = true := rfl
    cases t with
    | nil =>
      have hblank : Text.AllBlank u' := h.allBlank_iff.1 Text.allBlank_nil
      simp [LuaAccessors.afterBlanks?, hspace, List.dropWhile_eq_nil_iff.2 hblank]
    | cons c u =>
      cases hc : isBlank c with
      | true =>
        have hdrop := h.dropWhile_isBlank
        rw [List.dropWhile_cons_of_pos hc] at hdrop
        simpa [LuaAccessors.afterBlanks?, hc, hspace] using hrest u u' hdrop
      | false =>
        -- The space stands behind a whole word, so what follows it is no letter.
        left
        have hend : isNameStart c = false := by
          rw [Bool.eq_false_iff]
          intro hstart
          have hpart := isWordPart_of_isNamePart (isNamePart_of_isNameStart hstart)
          exact not_apart_of_fuses hx rfl (fuses_of_isWordPart hword hpart) hapart
        have hdrop := h.dropWhile_isBlank
        rw [List.dropWhile_cons_of_neg (by simp [hc])] at hdrop
        have hhead := hdrop.head?_eq Text.isBlank_head_dropWhile
        simp [LuaAccessors.afterBlanks?, hc, hspace, ← hhead, hend]

/-- Both lines are marked as local, or none is. -/
theorem splitLocal (h : Spaced [] t t') (ht' : ∀ d ∈ t'.head?, isBlank d = false) :
    (LuaAccessors.splitLocal t).1 = (LuaAccessors.splitLocal t').1 ∧
      Spaced [] (LuaAccessors.splitLocal t).2 (LuaAccessors.splitLocal t').2 ∧
      ∀ d ∈ (LuaAccessors.splitLocal t').2.head?, isBlank d = false := by
  -- Without a name behind the mark the line is left as it is.
  have hunmarked : ∀ line, (∀ u, (localKeyword.isPrefixOf? line).bind LuaAccessors.afterBlanks? = some u →
      ∀ c ∈ u.head?, isNameStart c = false) → LuaAccessors.splitLocal line = (false, line) := by
    intro line hline
    unfold LuaAccessors.splitLocal
    split
    · rename_i c rest hrest
      rw [hline _ hrest c rfl]
      rfl
    · rfl
  rcases h.keyword ht' (w := localKeyword) (by decide) (by decide) with
    ⟨hnone, hnone'⟩ | ⟨u, u', hsome, hsome', hbehind⟩
  · rw [hunmarked t (by simp [hnone]), hunmarked t' (by simp [hnone'])]
    exact ⟨rfl, h, ht'⟩
  · rcases hbehind.afterBlanks? (x := 'l') rfl (by decide) with
      ⟨hno, hno'⟩ | ⟨c, v, v', hv, hv', hc, hspaced⟩
    · rw [hunmarked t (by simpa [hsome] using hno), hunmarked t' (by simpa [hsome'] using hno')]
      exact ⟨rfl, h, ht'⟩
    · simp only [LuaAccessors.splitLocal, hsome, hsome', Option.bind_some, hv, hv', hc, if_true]
      refine ⟨trivial, hspaced, ?_⟩
      rintro d hd
      obtain rfl : c = d := by simpa using hd
      exact isBlank_eq_false_of_isNameStart hc

/-- Both texts start with the same name, or none starts with one. -/
theorem takeName? (h : Spaced [] t t') (ht' : ∀ d ∈ t'.head?, isBlank d = false) :
    (LuaAccessors.takeName? t = none ∧ LuaAccessors.takeName? t' = none) ∨
      ∃ name rest rest', LuaAccessors.takeName? t = some (name, rest) ∧
        LuaAccessors.takeName? t' = some (name, rest') ∧ Spaced [] rest rest' := by
  cases t with
  | nil =>
    rw [(h.eq_nil_iff ht').1 rfl]
    exact .inl ⟨rfl, rfl⟩
  | cons c u =>
    -- Spaces may differ between words only, so both lines go on with the same word.
    obtain ⟨u', rfl, hrest⟩ := h.cons_of_head ht'
    simp only [LuaAccessors.takeName?]
    cases hc : isNameStart c with
    | false => simp
    | true =>
      have hpart := isWordPart_of_isNamePart (isNamePart_of_isNameStart hc)
      obtain ⟨htake, hdrop⟩ := hrest.word (x := c) rfl hpart
      right
      refine ⟨c :: u.takeWhile isNamePart, _, _, rfl, ?_, hdrop⟩
      rw [if_pos rfl, htake]

/-! ## §2 Parameters and values -/

theorem splitParameters (h : Spaced before t t') :
    List.Forall₂ (Spaced []) (LuaAccessors.splitParameters t) (LuaAccessors.splitParameters t') := by
  obtain ⟨piece, pieces, piece', pieces', hcut, hcut', -, hpiece, hpieces⟩ :=
    h.splitOn (c := ',') (by decide)
  have hcut : List.Forall₂ (Spaced []) (Text.splitOn ',' t) (Text.splitOn ',' t') := by
    rw [hcut, hcut']
    exact .cons hpiece.alone hpieces
  have htrimmed : List.Forall₂ (fun u u' => Spaced [] u u' ∧ Text.Trimmed u')
      ((Text.splitOn ',' t).map Text.strip) ((Text.splitOn ',' t').map Text.strip) :=
    List.rel_map (fun u u' hu => ⟨Spaced.strip hu, Text.trimmed_strip u'⟩) hcut
  -- Parameters that are empty are left out, and both are empty or none is.
  refine List.Forall₂.imp (fun u u' hu => hu.1) (List.rel_filter ?_ htrimmed)
  intro u u' hu
  have hempty := hu.1.eq_nil_iff hu.2.head
  simpa using not_congr hempty

/-- Behind an equality sign both lines have a value, or none has one. -/
theorem assignedValue? (h : Spaced before t t') (hfeed : '\n' ∉ t)
    (hlast : ∀ c ∈ t'.getLast?, isBlank c = false) :
    Option.Rel (Spaced []) (LuaAccessors.assignedValue? t) (LuaAccessors.assignedValue? t') := by
  have hfeed' : '\n' ∉ t' := fun hmem => hfeed ((h.mem_iff (by decide)).2 hmem)
  rw [assignedValue?_of_no_feed hfeed, assignedValue?_of_no_feed hfeed']
  -- A value that is empty in one line is blank in the other, and a trimmed line does not end in blanks.
  by_cases hnil' : t' = []
  · subst hnil'
    cases h
    exact .none
  · have hnil : t ≠ [] := by
      rintro rfl
      have hblank : Text.AllBlank t' := h.allBlank_iff.1 Text.allBlank_nil
      have hend := hlast _ (List.getLast?_eq_some_getLast hnil')
      rw [hblank _ (List.getLast_mem hnil')] at hend
      cases hend
    rw [if_neg hnil, if_neg hnil']
    exact .some h.strip

/-! ## §3 Declarations -/

theorem function? (h : Spaced [] t t') (ht' : Text.Trimmed t') :
    Option.Rel Declaration.Spaced (Declaration.function? t) (Declaration.function? t') := by
  obtain ⟨hlocal, hrest, hhead⟩ := h.splitLocal ht'.head
  unfold Declaration.function?
  simp only [Option.bind_eq_bind, hlocal]
  rcases hrest.keyword hhead (w := functionKeyword) (by decide) (by decide) with
    ⟨hnone, hnone'⟩ | ⟨u, u', hsome, hsome', hbehind⟩
  · rw [hnone, hnone']
    exact .none
  rw [hsome, hsome', Option.bind_some, Option.bind_some]
  rcases hbehind.afterBlanks? (x := 'n') rfl (by decide) with
    ⟨hno, hno'⟩ | ⟨c, v, v', hv, hv', hc, hspaced⟩
  · -- Without a name behind the keyword there is no function.
    have hnameless : ∀ u, (∀ v, LuaAccessors.afterBlanks? u = some v → ∀ c ∈ v.head?, isNameStart c = false) →
        (LuaAccessors.afterBlanks? u).bind LuaAccessors.takeName? = none := by
      intro u hu
      cases hv : LuaAccessors.afterBlanks? u with
      | none => rfl
      | some v =>
        cases v with
        | nil => rfl
        | cons c v => simp [LuaAccessors.takeName?, hu _ hv c rfl]
    rw [← Option.bind_assoc, ← Option.bind_assoc, hnameless u hno, hnameless u' hno']
    exact .none
  rw [hv, hv', Option.bind_some, Option.bind_some]
  have hletter : ∀ d ∈ (c :: v').head?, isBlank d = false := by
    rintro d hd
    obtain rfl : c = d := by simpa using hd
    exact isBlank_eq_false_of_isNameStart hc
  rcases hspaced.takeName? hletter with ⟨hnone, hnone'⟩ | ⟨name, rest, rest', hname, hname', hrest⟩
  · rw [hnone, hnone']
    exact .none
  rw [hname, hname', Option.bind_some, Option.bind_some]
  -- What stands behind the name starts alike, with a parenthesis if there are parameters.
  have hdrop := hrest.dropWhile_isBlank
  cases hopen : rest.dropWhile isBlank with
  | nil =>
    rw [hopen] at hdrop
    rw [(hdrop.eq_nil_iff Text.isBlank_head_dropWhile).1 rfl]
    exact .none
  | cons d w =>
    rw [hopen] at hdrop
    obtain ⟨w', hw', hinside⟩ := hdrop.cons_of_head Text.isBlank_head_dropWhile
    rw [hw']
    split
    · rename_i w heq
      obtain ⟨rfl, rfl⟩ := List.cons.inj heq
      have hclose : w.contains ')' = w'.contains ')' := by
        rw [Bool.eq_iff_iff, List.contains_iff_mem, List.contains_iff_mem]
        exact hinside.mem_iff (by decide)
      simp only [hclose]
      split
      · exact .some (.function (hinside.takeWhile_ne (by decide)).splitParameters)
      · exact .none
    · rename_i hother
      split
      · rename_i heq
        obtain ⟨rfl, rfl⟩ := List.cons.inj heq
        exact absurd rfl (hother w)
      · exact .none

/-- What stands behind the equality sign of an assignment is the end of its line. -/
theorem suffix_of_takeName? {line name rest : Text} {c : Char} {w : Text}
    (hname : LuaAccessors.takeName? (LuaAccessors.splitLocal line).2 = some (name, rest))
    (hsign : rest.dropWhile isBlank = c :: w) : w <:+ line := by
  obtain ⟨mark, hline, -⟩ := exists_splitLocal line
  obtain ⟨hrest, -⟩ := eq_append_of_takeName? hname
  have hvalue : w <:+ rest := (List.suffix_cons c w).trans (hsign ▸ List.dropWhile_suffix isBlank)
  have hbehind : rest <:+ (LuaAccessors.splitLocal line).2 := ⟨name, hrest.symm⟩
  exact (hvalue.trans hbehind).trans ⟨mark, hline.symm⟩

theorem assignment? (h : Spaced [] t t') (ht' : Text.Trimmed t') (hfeed : '\n' ∉ t) :
    Option.Rel Declaration.Spaced (Declaration.assignment? t) (Declaration.assignment? t') := by
  obtain ⟨hlocal, hrest, hhead⟩ := h.splitLocal ht'.head
  unfold Declaration.assignment?
  simp only [Option.bind_eq_bind, hlocal]
  rcases hrest.takeName? hhead with ⟨hnone, hnone'⟩ | ⟨name, rest, rest', hname, hname', hrest⟩
  · rw [hnone, hnone']
    exact .none
  rw [hname, hname', Option.bind_some, Option.bind_some]
  have hdrop := hrest.dropWhile_isBlank
  cases hsign : rest.dropWhile isBlank with
  | nil =>
    rw [hsign] at hdrop
    rw [(hdrop.eq_nil_iff Text.isBlank_head_dropWhile).1 rfl]
    exact .none
  | cons d w =>
    rw [hsign] at hdrop
    obtain ⟨w', hsign', hvalue⟩ := hdrop.cons_of_head Text.isBlank_head_dropWhile
    have hline := suffix_of_takeName? hname hsign
    have hline' := suffix_of_takeName? hname' hsign'
    rw [hsign']
    split
    · rename_i w heq
      obtain ⟨rfl, rfl⟩ := List.cons.inj heq
      -- Two signs in one stay two signs in one.
      have hequal : w.head? = some '=' ↔ w'.head? = some '=' := by
        constructor
        · intro hw
          obtain ⟨u, rfl⟩ := List.head?_eq_some_iff.1 hw
          cases hvalue with
          | keep => rfl
          | space hapart => exact absurd hapart (not_apart_of_fuses (x := '=') rfl rfl (by decide))
        · intro hw'
          obtain ⟨u', rfl⟩ := List.head?_eq_some_iff.1 hw'
          obtain ⟨u, rfl, -⟩ := hvalue.of_cons (by decide)
          rfl
      have hlast : ∀ c ∈ w'.getLast?, isBlank c = false := by
        intro c hc
        obtain ⟨front, rfl⟩ := hline'
        apply ht'.last c
        rw [List.getLast?_append, Option.mem_def.1 hc]
        rfl
      have hassigned := hvalue.assignedValue? (fun hmem => hfeed (hline.subset hmem)) hlast
      simp only [hequal]
      split
      · exact .none
      · generalize LuaAccessors.assignedValue? w = value at hassigned ⊢
        generalize LuaAccessors.assignedValue? w' = value' at hassigned ⊢
        cases hassigned with
        | none => exact .none
        | some hv => exact .some (.assignment hv)
    · rename_i hother
      split
      · rename_i heq
        obtain ⟨rfl, rfl⟩ := List.cons.inj heq
        exact absurd rfl (hother w)
      · exact .none

/-- **What a spaced line declares** is what the line declares, spaced. -/
theorem ofLine? (h : Spaced [] t t') (ht' : Text.Trimmed t') (hfeed : '\n' ∉ t) :
    Option.Rel Declaration.Spaced (Declaration.ofLine? t) (Declaration.ofLine? t') := by
  have hfunction := h.function? ht'
  have hassignment := h.assignment? ht' hfeed
  unfold Declaration.ofLine?
  generalize Declaration.function? t = f at hfunction ⊢
  generalize Declaration.function? t' = f' at hfunction ⊢
  cases hfunction with
  | none => exact hassignment
  | some hf => exact .some hf

end Lexis.Spaced

end LuaAccessors
