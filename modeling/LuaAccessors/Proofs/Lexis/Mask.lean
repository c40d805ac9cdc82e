import LuaAccessors.Lexis.Mask
import LuaAccessors.Proofs.Lexis.Reread

/-!
# What a mask shows

A mask is made of the roles of a reading without comments, so what it shows of a text can be said line
by line, and the braces that it shows are the braces in code.

- `markedFrom`: a marked text that is read from any mode;
- `shown_eq_iff`: characters that are shown where they are code and nowhere else;
- `markedFrom_append_lineFeed`: the lines of a text are marked one after the other;
- `shownBraces_markedFrom`: the visible braces.
-/

namespace LuaAccessors.Lexis

/-! ## §1 Marked lines -/

/-- A mask shows a character or a space. -/
theorem maskChar_eq_or (c : Char) (role : Role) : maskChar c role = c ∨ maskChar c role = ' ' := by
  unfold maskChar
  split
  · exact .inr rfl
  · exact .inl rfl

/-- A text, read from a mode on, beside its mask. -/
def markedFrom (mode : Mode) (t : Text) : Marked :=
  t.zip (List.zipWith maskChar t (roles false mode t))

theorem marked_eq (t : Text) : marked t = markedFrom .code t := rfl

@[simp] theorem markedFrom_nil (mode : Mode) : markedFrom mode [] = [] := rfl

@[simp] theorem markedFrom_cons (mode : Mode) (c : Char) (rest : Text) :
    markedFrom mode (c :: rest) =
      (c, maskChar c (mode.step false c rest).1) :: markedFrom (mode.step false c rest).2 rest := rfl

@[simp] theorem text_markedFrom (mode : Mode) (t : Text) : (markedFrom mode t).text = t := by
  simp only [Marked.text, markedFrom]
  exact List.map_fst_zip (by simp)

/-- What a marked text shows is the mask. -/
theorem map_snd_marked (t : Text) : (marked t).map (·.2) = mask t := List.map_snd_zip (by simp)

/-- Beside a character stands the character or a space. -/
theorem shown_markedFrom (mode : Mode) (t : Text) :
    ∀ p ∈ markedFrom mode t, p.2 = p.1 ∨ p.2 = ' ' := by
  induction t generalizing mode with
  | nil => simp
  | cons c t ih =>
    intro p hp
    rcases List.mem_cons.1 hp with rfl | hp
    · exact maskChar_eq_or c _
    · exact ih _ p hp

/-- What a mask shows other than a space is the character itself. -/
theorem fst_eq_of_shown {mode : Mode} {t : Text} {p : Char × Char} (h : p ∈ markedFrom mode t)
    (hp : p.2 ≠ ' ') : p.1 = p.2 :=
  ((shown_markedFrom mode t p h).resolve_right hp).symm

/-- The text in front of a line feed is marked as it is on its own. -/
theorem markedFrom_append_lineFeed (mode : Mode) (t u : Text) :
    ∃ shown, markedFrom mode (t ++ '\n' :: u) =
      markedFrom mode t ++ ('\n', shown) :: markedFrom (mode.after false t).lineFeed u := by
  induction t generalizing mode with
  | nil => exact ⟨_, by rw [List.nil_append, markedFrom_cons, step_lineFeed]; rfl⟩
  | cons c t ih =>
    obtain ⟨shown, hmore⟩ := ih (mode.step false c t).2
    refine ⟨shown, ?_⟩
    rw [List.cons_append, markedFrom_cons, step_append_lineFeed, hmore]
    rfl

/-! ## §2 Visible braces -/

/-- The braces that a marked text shows. -/
def shownBraces (m : Marked) : Text := (m.map (·.2)).filter isBrace

theorem shownBraces_cons (c shown : Char) (m : Marked) :
    shownBraces ((c, shown) :: m) =
      if isBrace shown = true then shown :: shownBraces m else shownBraces m := by
  simp [shownBraces, List.filter_cons]

/-- Without comments no comment is opened. -/
theorem uncommented_step {mode : Mode} {c : Char} {rest : Text} (hsound : mode.Sound (c :: rest))
    (h : mode.uncommented = mode) :
    (mode.step false c rest).2.uncommented = (mode.step false c rest).2 ∧
      (mode.step false c rest).1 ≠ .comment := by
  have hrole : ∀ {left role next}, (Mode.within left role next).uncommented = .within left role next →
      next.isWithin = false → role ≠ .comment ∧ next.uncommented = next := by
    intro left role next h hnext
    cases role with
    | comment =>
      -- Behind a comment no delimiter is left half read.
      cases next with
      | within left role next => cases hnext
      | _ => cases h
    | _ => exact ⟨by simp, (Mode.within.inj h).2.2⟩
  have hstep := stepCase false mode c rest
  generalize mode.step false c rest = s at hstep ⊢
  cases hstep with
  | lineComment hcomments => cases hcomments
  | blockComment hcomments => cases hcomments
  | inLineComment => cases h
  | closingComment => cases h
  | inBlockComment => cases h
  | delimiterEnd =>
    obtain ⟨hne, hnext⟩ := hrole h hsound.isWithin_next
    exact ⟨hnext, hne⟩
  | @delimiter left role =>
    obtain ⟨hne, hnext⟩ := hrole h hsound.isWithin_next
    refine ⟨?_, hne⟩
    cases role with
    | comment => exact absurd rfl hne
    | _ => exact congrArg (Mode.within left _ ·) hnext
  | _ => exact ⟨rfl, by simp⟩

theorem uncommented_after {mode : Mode} {t : Text} (hsound : mode.Sound t) (h : mode.uncommented = mode) :
    (mode.after false t).uncommented = mode.after false t := by
  induction t generalizing mode with
  | nil => exact h
  | cons c rest ih => exact ih (sound_step false hsound) (uncommented_step hsound h).1

/-- What is left open behind a text without comments that is read from code on. -/
theorem sound_after_code (t : Text) :
    (Mode.code.after false t).Sound [] ∧ (Mode.code.after false t).uncommented = Mode.code.after false t := by
  have hsound : Mode.code.Sound t := trivial
  exact ⟨sound_after false hsound, uncommented_after hsound rfl⟩

/-- Delimiters are quotes, or they are made of the characters of long brackets. -/
theorem isQuote_or_isDelimiterChar {mode : Mode} {c : Char} {rest : Text}
    (hsound : mode.Sound (c :: rest)) (h : (mode.step false c rest).1 = .delimiter) :
    isQuote c = true ∨ isDelimiterChar c = true := by
  have hstep := stepCase false mode c rest
  generalize mode.step false c rest = s at hstep h
  -- Quotes open and close quoted strings, and all other delimiters are brackets.
  cases hstep with
  | openingQuote hc => exact .inl hc
  | closingQuote => exact .inl hsound
  | escapedEnd => exact .inl hsound
  | openingBracket hopener => exact .inr (head_of_opener hopener ▸ rfl)
  | closingBracket hcloser => exact .inr (head_of_closer hcloser ▸ rfl)
  | delimiterEnd => exact .inr (hsound.chars c (by simp))
  | delimiter => exact .inr (hsound.chars c (by simp))
  | _ => cases h

/-- A character that is in no delimiter is shown exactly where it is code. -/
theorem shown_eq_iff {mode : Mode} {c d : Char} {rest : Text} (hsound : mode.Sound (c :: rest))
    (hcomment : mode.uncommented = mode) (hquote : isQuote d = false) (hd : isDelimiterChar d = false)
    (hspace : d ≠ ' ') :
    maskChar c (mode.step false c rest).1 = d ↔ c = d ∧ (mode.step false c rest).1 = .code := by
  have hne := (uncommented_step hsound hcomment).2
  -- By the role of the character: code is shown as it is, content as a space, and delimiters are of few
  -- characters.
  cases hrole : (mode.step false c rest).1 with
  | code => simp [maskChar]
  | content => simp [maskChar, hspace.symm]
  | comment => exact absurd hrole hne
  | delimiter =>
    have hcd : c ≠ d := by
      rintro rfl
      rcases isQuote_or_isDelimiterChar hsound hrole with h | h
      · rw [hquote] at h
        cases h
      · rw [hd] at h
        cases h
    simp [maskChar, hcd]

/-- **Visible braces.** A mask shows the braces that stand in code, and no others. -/
theorem shownBraces_markedFrom {mode : Mode} {t : Text} (hsound : mode.Sound t)
    (h : mode.uncommented = mode) : shownBraces (markedFrom mode t) = braces false mode t := by
  induction t generalizing mode with
  | nil => rfl
  | cons c rest ih =>
    have hrest := ih (sound_step false hsound) (uncommented_step hsound h).1
    have hopen := shown_eq_iff hsound h (d := '{') rfl rfl (by decide)
    have hclose := shown_eq_iff hsound h (d := '}') rfl rfl (by decide)
    -- Neither brace is a delimiter or a space, so where a mask shows one there is one in code.
    have hbrace : isBrace (maskChar c (mode.step false c rest).1) = true ↔
        (mode.step false c rest).1 = .code ∧ isBrace c = true := by
      simp only [isBrace, Bool.or_eq_true, beq_iff_eq, hopen, hclose]
      tauto
    rw [markedFrom_cons, shownBraces_cons, braces, hrest, if_congr hbrace rfl rfl]
    split
    · rename_i hcode
      rw [maskChar, if_neg (by simp [hcode.1])]
    · rfl

theorem shownBraces_code (t : Text) : shownBraces (markedFrom .code t) = braces false .code t :=
  shownBraces_markedFrom trivial rfl

theorem count_shownBraces {b : Char} (hb : isBrace b = true) (m : Marked) :
    (shownBraces m).count b = (m.map (·.2)).count b := List.count_filter hb

/-- A mask has the braces that stand in code. -/
theorem count_mask {b : Char} (hb : isBrace b = true) (t : Text) :
    (mask t).count b = (braces false .code t).count b := by
  rw [← shownBraces_code, count_shownBraces hb, ← marked_eq, map_snd_marked]

theorem uncommented_carry (carry : Carry) :
    carry.mode.uncommented.uncommented = carry.mode.uncommented := by
  cases carry <;> rfl

end LuaAccessors.Lexis
