import LuaAccessors.Proofs.Lexis.Mask
import LuaAccessors.Proofs.Lexis.Spaced

/-!
# Masks of spaced texts

The mask of a text shows what stands outside literals. If spaces are put between the tokens of a text, the mask
shows the same signs, in the same order and with the same text around them, since no literal starts or ends
anywhere else: a space is put neither behind a backslash nor into a long bracket.

- `Mode.Reached`, `step_spaced`, `step_space`: the mode of the reader between two parts of a text;
- `SpacedMarks`: marked texts that show the same signs;
- `Spaced.markedFrom`: the masks of a text and of the spaced text;
- `SpacedMarks.dropWhile`, `SpacedMarks.takeWhile`: such texts cut at a sign.
-/

namespace LuaAccessors.Lexis

/-! ## §1 Modes in which spaces are read -/

/-- A character that table literals are cut at. -/
def isSeparator (c : Char) : Bool := isBrace c || c == ',' || c == '='

/-- The reader without comments may be in this mode between the two texts: behind a backslash if it is in an
escape, and in the middle of a long bracket if it is in a delimiter. -/
def Mode.Reached (before : Text) (mode : Mode) (t : Text) : Prop :=
  match mode with
  | .code => True
  | .quoted quote => isQuote quote = true
  | .escaped quote => isQuote quote = true ∧ before.getLast? = some '\\'
  | .longString _ => True
  | .lineComment => False
  | .blockComment _ => False
  | .within left role next => role = .delimiter ∧ (next = .code ∨ ∃ level, next = .longString level) ∧
      ∃ d u, (d = '[' ∨ d = ']') ∧ t = List.replicate left '=' ++ d :: u ∧
        (before.reverse.dropWhile (· == '=')).head? = some d

section

variable {before t t' : Text} {mode : Mode}

theorem reached_step {c : Char} (h : mode.Reached before (c :: t)) :
    (mode.step false c t).2.Reached (before ++ [c]) t := by
  have hstep := stepCase false mode c t
  generalize mode.step false c t = s at hstep ⊢
  -- Behind the first character of a long bracket its rest is to come, and what stands in front says so.
  have hbracket : ∀ d level, (d = '[' ∨ d = ']') →
      d :: (List.replicate level '=' ++ [d]) <+: c :: t →
      ∃ d u, (d = '[' ∨ d = ']') ∧ t = List.replicate level '=' ++ d :: u ∧
        ((before ++ [c]).reverse.dropWhile (· == '=')).head? = some d := by
    intro d level hd hstart
    obtain ⟨rfl, u, hu⟩ := List.cons_prefix_cons.1 hstart
    refine ⟨d, u, hd, by simp [← hu], ?_⟩
    rcases hd with rfl | rfl <;> simp
  cases hstep with
  | lineComment hcomments => cases hcomments
  | blockComment hcomments => cases hcomments
  | openingQuote hquote => exact hquote
  | openingBracket hopener => exact ⟨rfl, .inr ⟨_, rfl⟩, hbracket '[' _ (.inl rfl) hopener⟩
  | closingBracket hcloser => exact ⟨rfl, .inl rfl, hbracket ']' _ (.inr rfl) hcloser⟩
  | code => trivial
  | lineEnd => trivial
  | closingQuote => trivial
  | longString => trivial
  | backslash => exact ⟨h, List.getLast?_concat⟩
  | quoted => exact h
  | escapedEnd => exact h.1
  | escaped => exact h.1
  | inLineComment => exact h
  | closingComment => exact h.elim
  | inBlockComment => exact h
  | delimiterEnd =>
    obtain ⟨-, rfl | ⟨level, rfl⟩, -⟩ := h
    · trivial
    · trivial
  -- One character less of the bracket is to come.
  | @delimiter left =>
    obtain ⟨hrole, hnext, d, u, hd, ht, hbefore⟩ := h
    rw [List.replicate_succ, List.cons_append] at ht
    obtain ⟨rfl, rfl⟩ := List.cons.inj ht
    exact ⟨hrole, hnext, d, u, hd, rfl, by simpa using hbefore⟩

/-- The reader makes the same step in front of the spaced text, and shows the same signs. -/
theorem step_spaced {c : Char} (h : Spaced (before ++ [c]) t t') (hmode : mode.Reached before (c :: t)) :
    (mode.step false c t).2 = (mode.step false c t').2 ∧
      ∀ d, isSeparator d = true →
        (maskChar c (mode.step false c t).1 = d ↔ maskChar c (mode.step false c t').1 = d) := by
  cases mode with
  | code => simp [Mode.step, h.bracketLevel_eq]
  | quoted quote => exact ⟨rfl, fun _ _ => Iff.rfl⟩
  | escaped quote =>
    refine ⟨rfl, fun d hd => ?_⟩
    -- What follows decides whether an escaped quote is shown, but a quote is none of the signs.
    by_cases hc : c = quote
    · have hnot : ∀ role, maskChar c role ≠ d := by
        rintro role rfl
        have hquote := hmode.1
        rw [← hc] at hquote
        unfold maskChar at hd
        split at hd
        · cases hd
        · rcases eq_of_isQuote hquote with rfl | rfl <;> cases hd
      exact iff_of_false (hnot _) (hnot _)
    · simp [Mode.step, hc]
  | longString level =>
    have hcloser := h.bracketCloser_iff level
    simp only [Mode.step, List.isPrefixOf_iff_prefix, hcloser]
    exact ⟨trivial, fun _ _ => trivial⟩
  | lineComment => exact hmode.elim
  | blockComment level => exact hmode.elim
  | within left role next => cases left <;> exact ⟨rfl, fun _ _ => Iff.rfl⟩

/-- A space between parts that are apart is shown as it is and changes no mode. -/
theorem step_space (hmode : mode.Reached before t) (hapart : Apart before t) (u : Text) :
    (mode.step false ' ' u).2 = mode := by
  cases mode with
  | code => exact ignoresBlanks_code false ' ' u rfl
  -- Content may be a space, which is shown as one.
  | quoted quote =>
    exact step_quoted_of_isBlank hmode rfl (by decide) false u
  | escaped quote => exact absurd hmode.2 hapart.backslash
  | longString level => exact ignoresBlanks_longString false level ' ' u rfl
  | lineComment => exact hmode.elim
  | blockComment level => exact hmode.elim
  -- Inside of a bracket the space would stand between parts that are joined.
  | within left role next =>
    obtain ⟨-, -, d, u, hd, rfl, hbefore⟩ := hmode
    have hjoins : joinsBracket d before (List.replicate left '=' ++ d :: u) = true := by
      rcases hd with rfl | rfl <;> simp [joinsBracket, hbefore]
    rcases hd with rfl | rfl
    · exact absurd (hapart.opener.symm.trans hjoins) (by simp)
    · exact absurd (hapart.closer.symm.trans hjoins) (by simp)

end

/-! ## §2 Masks of spaced texts -/

/-- `SpacedMarks before m m'`: the text of `m'` is that of `m` with spaces put between parts that are apart,
and both show the same signs. -/
inductive SpacedMarks : Text → Marked → Marked → Prop
  | nil (before : Text) : SpacedMarks before [] []
  | keep {before : Text} {c s s' : Char} {m m' : Marked}
      (hshown : ∀ d, isSeparator d = true → (s = d ↔ s' = d)) (h : SpacedMarks (before ++ [c]) m m') :
      SpacedMarks before ((c, s) :: m) ((c, s') :: m')
  | space {before : Text} {m m' : Marked} (hapart : Apart before m.text) (h : SpacedMarks before m m') :
      SpacedMarks before m ((' ', ' ') :: m')

/-- **The masks of a text and of the spaced text** show the same signs. -/
theorem Spaced.markedFrom {before t t' : Text} (h : Spaced before t t') {mode : Mode}
    (hmode : mode.Reached before t) :
    SpacedMarks before (Lexis.markedFrom mode t) (Lexis.markedFrom mode t') := by
  -- Both are read in the same mode. What has been reached so far says why a space does not change it.
  induction h generalizing mode with
  | nil before => exact .nil before
  | keep c h ih =>
    obtain ⟨hnext, hshown⟩ := step_spaced h hmode
    rw [markedFrom_cons, markedFrom_cons, ← hnext]
    exact .keep hshown (ih (reached_step hmode))
  | space hapart h ih =>
    have hspace : ∀ role, maskChar ' ' role = ' ' := fun role => ite_self _
    rw [markedFrom_cons, step_space hmode hapart, hspace]
    exact .space (by rwa [text_markedFrom]) (ih hmode)

theorem Spaced.marked {t t' : Text} (h : Spaced [] t t') :
    SpacedMarks [] (Lexis.marked t) (Lexis.marked t') := by
  rw [marked_eq, marked_eq]
  exact Spaced.markedFrom h trivial

namespace SpacedMarks

variable {before : Text} {m m' : Marked}

theorem text (h : SpacedMarks before m m') : Spaced before m.text m'.text := by
  induction h with
  | nil before => exact .nil before
  | keep hshown h ih => exact .keep _ ih
  | space hapart h ih => exact .space hapart ih

theorem of_suffix {before' : Text} (h : SpacedMarks before' m m') (hsuffix : before <:+ before') :
    SpacedMarks before m m' := by
  induction h generalizing before with
  | nil before' => exact .nil before
  | @keep _ c _ _ _ _ hshown h ih =>
    apply SpacedMarks.keep hshown
    apply ih
    obtain ⟨front, rfl⟩ := hsuffix
    exact ⟨front, by simp⟩
  | space hapart h ih => exact .space (hapart.of_suffix hsuffix) (ih hsuffix)

theorem alone (h : SpacedMarks before m m') : SpacedMarks [] m m' := h.of_suffix (List.nil_suffix)

theorem space_ne_separator {d : Char} (hd : isSeparator d = true) : ' ' ≠ d := by
  rintro rfl
  cases hd

/-- Both show a sign, and the rest behind the first one is spaced, or none does. -/
theorem dropWhile (h : SpacedMarks before m m') {d : Char} (hd : isSeparator d = true) :
    (m.dropWhile (·.2 != d) = [] ∧ m'.dropWhile (·.2 != d) = []) ∨
      ∃ p p' rest rest', m.dropWhile (·.2 != d) = p :: rest ∧ m'.dropWhile (·.2 != d) = p' :: rest' ∧
        SpacedMarks [] rest rest' := by
  induction h with
  | nil before => exact .inl ⟨rfl, rfl⟩
  | @keep _ c s s' m m' hshown h ih =>
    by_cases hs : s = d
    · -- A sign that both show. Behind it both are read from the start.
      have hs' := (hshown d hd).1 hs
      right
      refine ⟨(c, s), (c, s'), m, m', ?_, ?_, h.alone⟩
      · exact List.dropWhile_cons_of_neg (by simp [hs])
      · exact List.dropWhile_cons_of_neg (by simp [hs'])
    · have hs' : s' ≠ d := fun h' => hs ((hshown d hd).2 h')
      rw [List.dropWhile_cons_of_pos (by simpa using hs), List.dropWhile_cons_of_pos (by simpa using hs')]
      exact ih
  | space hapart h ih =>
    rw [List.dropWhile_cons_of_pos (by simpa using space_ne_separator hd)]
    exact ih

/-- What stands in front of the first sign is spaced. -/
theorem takeWhile (h : SpacedMarks before m m') {d : Char} (hd : isSeparator d = true) :
    SpacedMarks before (m.takeWhile (·.2 != d)) (m'.takeWhile (·.2 != d)) := by
  induction h with
  | nil before => exact .nil before
  | @keep before c s s' m m' hshown h ih =>
    by_cases hs : s = d
    · have hs' := (hshown d hd).1 hs
      rw [List.takeWhile_cons_of_neg (by simp [hs]), List.takeWhile_cons_of_neg (by simp [hs'])]
      exact .nil before
    · have hs' : s' ≠ d := fun h' => hs ((hshown d hd).2 h')
      rw [List.takeWhile_cons_of_pos (by simpa using hs), List.takeWhile_cons_of_pos (by simpa using hs')]
      exact .keep hshown ih
  | space hapart h ih =>
    rw [List.takeWhile_cons_of_pos (by simpa using space_ne_separator hd)]
    exact .space (hapart.of_start ((List.takeWhile_prefix _).map _)) ih

/-- Both show the same signs, in the same order. -/
theorem signs_eq (h : SpacedMarks before m m') :
    (m.map (·.2)).filter isSeparator = (m'.map (·.2)).filter isSeparator := by
  induction h with
  | nil before => rfl
  | @keep _ c s s' m m' hshown h ih =>
    rw [List.map_cons, List.map_cons]
    -- A character is shown as the same sign in both, or as none in both.
    by_cases hs : isSeparator s = true
    · obtain rfl : s' = s := (hshown s hs).1 rfl
      rw [List.filter_cons_of_pos hs, List.filter_cons_of_pos hs, ih]
    · have hs' : ¬isSeparator s' = true := by
        intro hs'
        obtain rfl : s = s' := (hshown s' hs').2 rfl
        exact hs hs'
      rw [List.filter_cons_of_neg hs, List.filter_cons_of_neg hs', ih]
  | space hapart h ih => exact ih

end SpacedMarks

end LuaAccessors.Lexis
