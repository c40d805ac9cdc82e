import LuaAccessors.Proofs.Lexis.Mask

/-!
# Masks of masks and of joined texts

A mask can be taken for the text: it is read as the text is, and masking it again changes nothing. A text whose
literals are all closed can be masked without what follows it, unless a long bracket opens across the seam.

- `maskFrom`: the mask of a text that is read from any mode;
- `Remasks`, `remasks_step`, `maskFrom_maskFrom`: reading a mask beside reading the text;
- `LeavesOpen`, `CompletesBracket`: what can go wrong at a seam;
- `step_append_of_closed`, `roles_append_of_closed`: reading up to a seam where nothing goes wrong;
- `mask_positional_stable_compositional`: all of it together.
-/

namespace LuaAccessors.Lexis

/-! ## §1 Masks from any mode -/

/-- The mask of a text that is read from a mode on. -/
def maskFrom (mode : Mode) (t : Text) : Text := List.zipWith maskChar t (roles false mode t)

@[simp] theorem maskFrom_cons (mode : Mode) (c : Char) (rest : Text) :
    maskFrom mode (c :: rest) =
      maskChar c (mode.step false c rest).1 :: maskFrom (mode.step false c rest).2 rest := rfl

/-- Character by character a mask shows the text or a space. -/
theorem forall₂_maskFrom (mode : Mode) (t : Text) :
    List.Forall₂ (fun c shown => shown = c ∨ shown = ' ') t (maskFrom mode t) := by
  induction t generalizing mode with
  | nil => exact .nil
  | cons c rest ih => exact .cons (maskChar_eq_or c _) (ih _)

/-- A word that a mask shows stands in the text. -/
theorem prefix_of_maskFrom {w : Text} (hw : ' ' ∉ w) {mode : Mode} {t : Text} (h : w <+: maskFrom mode t) :
    w <+: t := by
  induction t generalizing mode w with
  | nil => exact h
  | cons c rest ih =>
    cases w with
    | nil => exact List.nil_prefix
    | cons d w =>
      rw [List.mem_cons, not_or] at hw
      obtain ⟨hd, hrest⟩ := List.cons_prefix_cons.1 h
      -- A mask shows a character as it is or as a space, and the word has no space.
      have hshown : maskChar c (mode.step false c rest).1 = c :=
        (maskChar_eq_or c _).resolve_right fun hspace => hw.1 (hspace.symm.trans hd.symm)
      exact List.cons_prefix_cons.2 ⟨hd.trans hshown, ih hw.2 hrest⟩

/-- A delimiter is shown as a whole. -/
theorem maskFrom_within {left : Nat} {role : Role} (hrole : role ≠ .content) (next : Mode) {w : Text}
    (hw : w.length = left + 1) (u : Text) :
    maskFrom (.within left role next) (w ++ u) = w ++ maskFrom next u := by
  have hshown : ∀ c, maskChar c role = c := fun c => if_neg hrole
  induction left generalizing w with
  | zero =>
    obtain ⟨c, rfl⟩ := List.length_eq_one_iff.1 hw
    exact congrArg (· :: maskFrom next u) (hshown c)
  | succ left ih =>
    obtain ⟨c, w, rfl⟩ := List.exists_cons_of_length_eq_add_one hw
    rw [List.cons_append, maskFrom_cons, List.cons_append]
    exact congrArg₂ List.cons (hshown c) (ih (by simpa using hw))

/-- A bracket that stands in the text is shown by its mask. -/
theorem prefix_cons_maskFrom_within {w rest : Text} {c : Char} {level : Nat} {role : Role} (next : Mode)
    (hw : w.length = level + 2) (hrole : role ≠ .content) (h : w <+: c :: rest) :
    w <+: c :: maskFrom (.within level role next) rest := by
  obtain ⟨v, more, rfl, hv⟩ := exists_of_prefix_cons hw h
  rw [maskFrom_within hrole next hv]
  exact prefix_cons_append_of_length_le h (by omega) _

theorem space_not_mem_bracketOpener (level : Nat) : ' ' ∉ bracketOpener level := by
  intro h
  rcases mem_bracketOpener h with h | h <;> cases h

theorem space_not_mem_bracketCloser (level : Nat) : ' ' ∉ bracketCloser level := by
  intro h
  rcases mem_bracketCloser h with h | h <;> cases h

/-- A mask shows no bracket that is not in the text. -/
theorem prefix_of_cons_maskFrom {w rest : Text} (hw : ' ' ∉ w) {c : Char} {mode : Mode}
    (h : w <+: c :: maskFrom mode rest) : w <+: c :: rest := by
  cases w with
  | nil => exact List.nil_prefix
  | cons d w =>
    obtain ⟨hd, hrest⟩ := List.cons_prefix_cons.1 h
    exact List.cons_prefix_cons.2 ⟨hd, prefix_of_maskFrom (fun hs => hw (List.mem_cons_of_mem _ hs)) hrest⟩

/-! ## §2 Reading a mask

A mask is read again from its start. It is not read in the same modes as the text: an escaped character is shown
as a space, so that in the mask nothing is escaped.
-/

/-- The mode in which a mask is read. A mask shows no backslash that starts an escape. -/
def Mode.masked : Mode → Mode
  | .escaped quote => .quoted quote
  | mode => mode

/-- The mask of a text is read from `mode'` on where the text is read from `mode` on. An escaped quote at the end
of a literal that is left open is shown, and closes the literal in the mask. -/
def Remasks (mode mode' : Mode) (t : Text) : Prop :=
  mode' = mode.masked ∨ ∃ quote, mode = .quoted quote ∧ mode' = .code ∧ endsOpen t = true

theorem space_ne_quote {quote : Char} (hquote : isQuote quote = true) : ' ' ≠ quote := by
  rintro rfl
  cases hquote

/-- A literal goes on over a space. -/
theorem step_quoted_space {quote : Char} (hquote : isQuote quote = true) (rest : Text) :
    Mode.step false (.quoted quote) ' ' rest = (.content, .quoted quote) := by
  simp [Mode.step, space_ne_quote hquote]

/-- **One step over a mask** shows the character again, and keeps up with the step over the text. -/
theorem remasks_step {mode : Mode} {c : Char} {rest : Text} (hsound : mode.Sound (c :: rest)) :
    maskChar (maskChar c (mode.step false c rest).1) (mode.masked.step false
        (maskChar c (mode.step false c rest).1) (maskFrom (mode.step false c rest).2 rest)).1 =
        maskChar c (mode.step false c rest).1 ∧
      Remasks (mode.step false c rest).2 (mode.masked.step false
        (maskChar c (mode.step false c rest).1) (maskFrom (mode.step false c rest).2 rest)).2 rest := by
  have hstep := stepCase false mode c rest
  -- The step over the mask starts in the mode that goes with the one over the text. In each case the mask shows
  -- enough of what the step has looked at: delimiters as they are, and a space where there is content.
  generalize mode.step false c rest = s at hstep ⊢
  cases hstep with
  | lineComment hcomments => cases hcomments
  | blockComment hcomments => cases hcomments
  | openingQuote hquote => simp [maskChar, Mode.masked, Mode.step, hquote, Remasks]
  -- The bracket is shown whole, and so it is found again.
  | @openingBracket _ _ level hopener =>
    have hquote : isQuote c = false := head_of_opener hopener ▸ rfl
    have hrole : Role.delimiter ≠ .content := by simp
    have hshown := prefix_cons_maskFrom_within (.longString level) (length_bracketOpener level) hrole hopener
    simp [maskChar, Mode.masked, Mode.step, hquote, bracketLevel_eq_some_iff.2 hshown, Remasks]
  -- A mask shows no bracket that is not in the text.
  | code _ hquote hlevel =>
    have hshown : bracketLevel (c :: maskFrom .code rest) = none := by
      cases hshown : bracketLevel (c :: maskFrom .code rest) with
      | none => rfl
      | some level =>
        have hopener := prefix_of_cons_maskFrom (space_not_mem_bracketOpener level)
          (bracketLevel_eq_some_iff.1 hshown)
        rw [bracketLevel_eq_some_iff.2 hopener] at hlevel
        cases hlevel
    simp [maskChar, Mode.masked, Mode.step, hquote, hshown, Remasks]
  | lineEnd => simp [maskChar, Mode.masked, Mode.step, Remasks]
  | backslash => simp [maskChar, Mode.masked, step_quoted_space hsound, Remasks]
  | closingQuote hend hbackslash => simp [maskChar, Mode.masked, Mode.step, hend, hbackslash, Remasks]
  | quoted => simp [maskChar, Mode.masked, step_quoted_space hsound, Remasks]
  | escapedEnd hend =>
    -- The mask shows the quote, which closes the literal there, and the literal ends behind it in the text.
    have hne : c ≠ '\n' ∧ c ≠ '\\' := by
      rcases eq_of_isQuote hsound with rfl | rfl <;> decide
    simp [maskChar, Mode.masked, Mode.step, hne.1, hne.2, Remasks, hend]
  | escaped => simp [maskChar, Mode.masked, step_quoted_space hsound, Remasks]
  | @closingBracket level _ _ hcloser =>
    have hrole : Role.delimiter ≠ .content := by simp
    have hshown := prefix_cons_maskFrom_within .code (length_bracketCloser level) hrole hcloser
    simp [maskChar, Mode.masked, Mode.step, hshown, Remasks]
  | longString =>
    simp [maskChar, Mode.masked, Mode.step, closer_isPrefixOf_cons_eq_false (c := ' ') (by decide), Remasks]
  | inLineComment => simp [maskChar, Mode.masked, Mode.step, Remasks]
  | @closingComment level _ _ hcloser =>
    have hrole : Role.comment ≠ .content := by simp
    have hshown := prefix_cons_maskFrom_within .code (length_bracketCloser level) hrole hcloser
    simp [maskChar, Mode.masked, Mode.step, hshown, Remasks]
  -- No closer is shown that is not in the text.
  | @inBlockComment level _ _ hcloser =>
    have hshown : ¬bracketCloser level <+: c :: maskFrom (.blockComment level) rest :=
      fun h => hcloser (prefix_of_cons_maskFrom (space_not_mem_bracketCloser level) h)
    simp [maskChar, Mode.masked, Mode.step, hshown, Remasks]
  -- Behind the last character of a delimiter the mode is the next one, which no escape can be.
  | @delimiterEnd role next =>
    have hnext : next.masked = next := by
      cases next with
      | escaped quote => exact absurd rfl (hsound.next_ne quote).2
      | _ => rfl
    refine ⟨?_, .inl hnext.symm⟩
    by_cases hrole : role = .content <;> simp [maskChar, Mode.masked, Mode.step, hrole]
  | @delimiter left role =>
    by_cases hrole : role = .content <;> simp [maskChar, Mode.masked, Mode.step, hrole, Remasks]

/-- A mask, masked again. -/
theorem maskFrom_maskFrom {mode mode' : Mode} {t : Text} (hsound : mode.Sound t)
    (h : Remasks mode mode' t) : maskFrom mode' (maskFrom mode t) = maskFrom mode t := by
  induction t generalizing mode mode' with
  | nil => rfl
  | cons c rest ih =>
    have hnext := sound_step false hsound
    rcases h with rfl | ⟨quote, rfl, rfl, hend⟩
    · obtain ⟨hshown, hremasks⟩ := remasks_step hsound
      rw [maskFrom_cons, maskFrom_cons, hshown, ih hnext hremasks]
    · -- Behind the quote that the mask shows, the line ends.
      obtain rfl : c = '\n' := by simpa [endsOpen] using hend
      have hrest := @ih .code .code trivial (.inl rfl)
      have hquoted : maskFrom (.quoted quote) ('\n' :: rest) = '\n' :: maskFrom .code rest := rfl
      have hcode : ∀ u, Mode.step false .code '\n' u = (.code, .code) := step_code_of_isBlank rfl false
      rw [hquoted, maskFrom_cons, hcode]
      exact congrArg (maskChar '\n' .code :: ·) hrest

/-! ## §3 Seams -/

/-- The text leaves a quoted or a long string open at its end. -/
def LeavesOpen (t : Text) : Prop :=
  (∃ quote, (Mode.code.after false t).region = .quoted quote) ∨
    ∃ level, (Mode.code.after false t).region = .longString level

/-- A text that is read from `mode` ends in code with `[` and equality signs behind it, and `u` starts with
equality signs and `[`. -/
def CompletesBracket (mode : Mode) (t u : Text) : Prop :=
  (∃ front signs, t = front ++ '[' :: List.replicate signs '=' ∧
      (roles false mode t)[front.length]? = some .code) ∧
    ∃ signs, List.replicate signs '=' ++ ['['] <+: u

/-- A mode that equality signs leave as it is. -/
theorem after_signs {mode : Mode} (hmode : ∀ rest, (mode.step false '=' rest).2 = mode) (signs : Nat) :
    mode.after false (List.replicate signs '=') = mode := by
  induction signs with
  | zero => rfl
  | succ signs ih => rw [List.replicate_succ, after_cons, hmode, ih]

/-- A bracket that equality signs do not close is closed in front of a seam, or it is left open there. -/
theorem closer_append_of_closed {mode : Mode} (hmode : ∀ rest, (mode.step false '=' rest).2 = mode)
    (hopen : mode.region ≠ .code) (level : Nat) (c : Char) (t : Text)
    (hclosed : ¬bracketCloser level <+: c :: t → (mode.after false t).region = .code) (u : Text) :
    (bracketCloser level).isPrefixOf (c :: (t ++ u)) = (bracketCloser level).isPrefixOf (c :: t) := by
  rw [Bool.eq_iff_iff, List.isPrefixOf_iff_prefix, List.isPrefixOf_iff_prefix]
  refine ⟨fun hlong => ?_, fun hshort => hshort.trans (List.prefix_append (c :: t) u)⟩
  rcases bracket_prefix_append_or hlong with hshort | ⟨-, hsigns, -⟩
  · exact hshort
  · -- Else only equality signs would stand in front of the seam, and the bracket would be open there.
    by_contra hshort
    have hregion := hclosed hshort
    rw [hsigns, after_signs hmode] at hregion
    exact hopen hregion

/-- In front of a closed end a step sees nothing of what follows the seam, unless a long bracket opens across
it. -/
theorem step_append_of_closed {mode : Mode} {c : Char} {t u : Text}
    (hclosed : (mode.after false (c :: t)).region = .code) (hseam : ¬CompletesBracket mode (c :: t) u) :
    mode.step false c (t ++ u) = mode.step false c t := by
  cases mode with
  | code =>
    have hlevel : bracketLevel (c :: (t ++ u)) = bracketLevel (c :: t) := by
      cases hlong : bracketLevel (c :: (t ++ u)) with
      | some level =>
        rcases bracket_prefix_append_or (bracketLevel_eq_some_iff.1 hlong) with hshort | ⟨rfl, hsigns, hbehind⟩
        · exact (bracketLevel_eq_some_iff.2 hshort).symm
        · -- Nothing but equality signs stands between the bracket and the seam.
          refine absurd ⟨⟨[], t.length, congrArg _ hsigns, ?_⟩, hbehind⟩ hseam
          rw [hsigns]
          simp [roles, Mode.step, isQuote, bracketLevel]
      | none =>
        cases hshort : bracketLevel (c :: t) with
        | none => rfl
        | some level =>
          have hopener := (bracketLevel_eq_some_iff.1 hshort).trans (List.prefix_append (c :: t) u)
          rw [List.cons_append, ← bracketLevel_eq_some_iff, hlong] at hopener
          cases hopener
    simp [Mode.step, hlevel]
  | quoted quote => rfl
  | escaped quote =>
    -- At the end of the text the literal would be left open.
    cases t with
    | nil => cases hclosed
    | cons d t => rfl
  | longString level =>
    have hsame : ∀ rest, (Mode.step false (.longString level) '=' rest).2 = .longString level := by
      simp [Mode.step, closer_isPrefixOf_cons_eq_false]
    have hcloser := closer_append_of_closed hsame (by simp [Mode.region]) level c t
      (fun hshort => by simpa [Mode.step, hshort] using hclosed) u
    simp only [Mode.step, hcloser]
  | lineComment => rfl
  | blockComment level =>
    have hsame : ∀ rest, (Mode.step false (.blockComment level) '=' rest).2 = .blockComment level := by
      simp [Mode.step, closer_isPrefixOf_cons_eq_false]
    have hcloser := closer_append_of_closed hsame (by simp [Mode.region]) level c t
      (fun hshort => by simpa [Mode.step, hshort] using hclosed) u
    simp only [Mode.step, hcloser]
  | within left role next => cases left <;> rfl

/-- **Reading up to a seam.** A text with a closed end is read as it is without what follows, unless a long
bracket opens across the seam. -/
theorem roles_append_of_closed {mode : Mode} {t u : Text} (hclosed : (mode.after false t).region = .code)
    (hseam : ¬CompletesBracket mode t u) :
    roles false mode (t ++ u) = roles false mode t ++ roles false (mode.after false t) u := by
  induction t generalizing mode with
  | nil => rfl
  | cons c t ih =>
    have hrest : ¬CompletesBracket (mode.step false c t).2 t u := by
      rintro ⟨⟨front, signs, rfl, hrole⟩, hbehind⟩
      exact hseam ⟨⟨c :: front, signs, rfl, hrole⟩, hbehind⟩
    rw [List.cons_append, roles, step_append_of_closed hclosed hseam, ih hclosed hrest]
    rfl

/-- Without comments, what is not left open is closed. -/
theorem after_eq_code_of_not_leavesOpen {t : Text} (h : ¬LeavesOpen t) : Mode.code.after false t = .code := by
  obtain ⟨hsound, hcomment⟩ := sound_after_code t
  cases hmode : Mode.code.after false t with
  | code => rfl
  | quoted quote => exact absurd (.inl ⟨quote, congrArg Mode.region hmode⟩) h
  | escaped quote => exact absurd (.inl ⟨quote, congrArg Mode.region hmode⟩) h
  | longString level => exact absurd (.inr ⟨level, congrArg Mode.region hmode⟩) h
  | lineComment => rw [hmode] at hcomment; cases hcomment
  | blockComment level => rw [hmode] at hcomment; cases hcomment
  | within left role next => rw [hmode] at hsound; exact absurd hsound.length_lt (by simp)

/-- The masks of two texts that do not meet at the seam stand one behind the other. -/
theorem mask_append {a b : Text} (hclosed : ¬LeavesOpen a) (hseam : ¬CompletesBracket .code a b) :
    mask (a ++ b) = mask a ++ mask b := by
  have hcode := after_eq_code_of_not_leavesOpen hclosed
  have hregion : (Mode.code.after false a).region = .code := congrArg Mode.region hcode
  rw [mask, roles_append_of_closed hregion hseam, hcode]
  exact List.zipWith_append (by simp)

/-! ## §4 Together -/

/-- **Masks** have the length of the text and show its characters or spaces in their places; masking a mask
changes nothing; and two texts are masked on their own if the first one leaves no literal open and no long bracket
opens across the seam. -/
theorem mask_positional_stable_compositional :
    (∀ t, (mask t).length = t.length ∧ List.Forall₂ (fun c shown => shown = c ∨ shown = ' ') t (mask t) ∧
      mask (mask t) = mask t) ∧
      ∀ a b, ¬LeavesOpen a → ¬CompletesBracket .code a b → mask (a ++ b) = mask a ++ mask b := by
  refine ⟨fun t => ⟨length_mask t, forall₂_maskFrom .code t, ?_⟩, fun a b => mask_append⟩
  exact @maskFrom_maskFrom .code .code t trivial (.inl rfl)

/-- A literal with the start of a long bracket in it, and the start of one in code. -/
def halfBracket : Text := "x = '[[' .. t[=".toList

/-- What may stand behind it. -/
def otherHalf : Text := r#"= "a,{""#.toList

/-- There the bracket is not completed. -/
theorem mask_halfBracket : ¬LeavesOpen halfBracket ∧ ¬CompletesBracket .code halfBracket otherHalf ∧
    mask (halfBracket ++ otherHalf) = mask halfBracket ++ mask otherHalf := by
  have hclosed : ¬LeavesOpen halfBracket := by
    have hregion : (Mode.code.after false halfBracket).region = .code := by decide
    rintro (⟨quote, h⟩ | ⟨level, h⟩)
    · exact absurd (hregion.symm.trans h) (by simp)
    · exact absurd (hregion.symm.trans h) (by simp)
  have hseam : ¬CompletesBracket .code halfBracket otherHalf := by
    rintro ⟨-, signs, h⟩
    have hmem : '[' ∈ otherHalf := h.subset (by simp)
    exact absurd hmem (by decide)
  exact ⟨hclosed, hseam, mask_positional_stable_compositional.2 halfBracket otherHalf hclosed hseam⟩

end LuaAccessors.Lexis
