import Mathlib.Data.List.Induction
import LuaAccessors.Proofs.Lexis.Agreement

/-!
# Reading the code of a line again

Table literals are read a second time, from the code of the lines of a scan: comments are gone, blanks
at both ends of a line are gone, and the lines are joined by line feeds. The second reading sees the
braces of the first one, line by line, unless the gap that a comment leaves makes a long bracket, or a
backslash at the end of a line swallows the line feed.

- `Mode.Sound`: what holds of every mode that a reading reaches;
- `Mode.uncommented`, `kept`, `reread`: the second reading of a text whose comments are gone;
- `Mode.lineFeed`, `reread_line`: the second reading of a trimmed line and of the line feed behind it;
- `LexedLine.EndsEscaped`, `reread_scanLine`: a line of a scan, with what may go wrong said of the lexed
  line.
-/

namespace LuaAccessors.Lexis

/-! ## §1 Modes that a reading reaches -/

/-- A mode in the middle of a delimiter. -/
def Mode.isWithin : Mode → Bool
  | .within _ _ _ => true
  | _ => false

/-- The rest of a delimiter, of which `left + 1` characters are to come, stands at the start of the text. -/
structure DelimiterRest (left : Nat) (role : Role) (next : Mode) (t : Text) : Prop where
  role_ne : role ≠ .code
  length_lt : left < t.length
  chars : ∀ d ∈ t.take (left + 1), isDelimiterChar d = true
  isWithin_next : next.isWithin = false
  next_ne : ∀ quote, next ≠ .quoted quote ∧ next ≠ .escaped quote

/-- What holds of a mode in front of a text that a reading reaches. -/
def Mode.Sound (mode : Mode) (t : Text) : Prop :=
  match mode with
  | .within left role next => DelimiterRest left role next t
  | .quoted quote => isQuote quote = true
  | .escaped quote => isQuote quote = true
  | _ => True

theorem sound_carry (carry : Carry) (t : Text) : carry.mode.Sound t := by
  cases carry <;> trivial

/-- What is left of a delimiter that stands at the start of a text. -/
theorem sound_within {w rest : Text} {c : Char} {left : Nat} {role : Role} {next : Mode}
    (hrole : role ≠ .code) (hstart : w <+: c :: rest) (hlength : w.length = left + 2)
    (hchars : ∀ d ∈ w, isDelimiterChar d = true) (hnext : next.isWithin = false)
    (hquote : ∀ quote, next ≠ .quoted quote ∧ next ≠ .escaped quote) :
    (Mode.within left role next).Sound rest := by
  obtain ⟨more, hmore⟩ := hstart
  obtain ⟨d, v, rfl⟩ := List.exists_cons_of_length_eq_add_one hlength
  rw [List.cons_append] at hmore
  obtain ⟨-, rfl⟩ := List.cons.inj hmore
  have hv : v.length = left + 1 := by simpa using hlength
  refine ⟨hrole, by rw [List.length_append]; omega, fun e he => ?_, hnext, hquote⟩
  rw [← hv, List.take_left] at he
  exact hchars e (List.mem_cons_of_mem _ he)

theorem isDelimiterChar_of_mem_opener {level : Nat} {c : Char} (h : c ∈ bracketOpener level) :
    isDelimiterChar c = true := by
  rcases mem_bracketOpener h with rfl | rfl <;> rfl

theorem isDelimiterChar_of_mem_closer {level : Nat} {c : Char} (h : c ∈ bracketCloser level) :
    isDelimiterChar c = true := by
  rcases mem_bracketCloser h with rfl | rfl <;> rfl

theorem sound_step {mode : Mode} {c : Char} {rest : Text} (comments : Bool)
    (h : mode.Sound (c :: rest)) : (mode.step comments c rest).2.Sound rest := by
  have hstep := stepCase comments mode c rest
  generalize mode.step comments c rest = s at hstep ⊢
  cases hstep with
  | @blockComment rest level _ hopener =>
    have hstart : '-' :: '-' :: bracketOpener level <+: '-' :: '-' :: rest :=
      List.cons_prefix_cons.2 ⟨rfl, List.cons_prefix_cons.2 ⟨rfl, hopener⟩⟩
    refine sound_within (by simp) hstart (by simp) (fun d hd => ?_) rfl (by simp)
    rcases List.mem_cons.1 hd with rfl | hd
    · rfl
    rcases List.mem_cons.1 hd with rfl | hd
    · rfl
    · exact isDelimiterChar_of_mem_opener hd
  | openingQuote hquote => exact hquote
  | openingBracket hopener =>
    exact sound_within (by simp) hopener (length_bracketOpener _)
      (fun d hd => isDelimiterChar_of_mem_opener hd) rfl (by simp)
  | closingBracket hcloser =>
    exact sound_within (by simp) hcloser (length_bracketCloser _)
      (fun d hd => isDelimiterChar_of_mem_closer hd) rfl (by simp)
  | closingComment hcloser =>
    exact sound_within (by simp) hcloser (length_bracketCloser _)
      (fun d hd => isDelimiterChar_of_mem_closer hd) rfl (by simp)
  | delimiterEnd =>
    rename_i role next
    -- Behind a delimiter a mode stands that says nothing of the text.
    cases next with
    | quoted quote => exact absurd rfl (h.next_ne quote).1
    | escaped quote => exact absurd rfl (h.next_ne quote).2
    | within left role next => cases h.isWithin_next
    | _ => trivial
  | delimiter =>
    obtain ⟨hrole, hleft, hchars, hnext, hquote⟩ := h
    rw [List.length_cons] at hleft
    refine ⟨hrole, by omega, fun d hd => hchars d ?_, hnext, hquote⟩
    rw [List.take_succ_cons]
    exact List.mem_cons_of_mem _ hd
  -- Inside a quoted literal the quote that closes it stays the same.
  | backslash => exact h
  | quoted => exact h
  | escapedEnd => exact h
  | escaped => exact h
  | _ => trivial

/-- Behind a whole text no delimiter is left half read. -/
theorem sound_after {mode : Mode} {t : Text} (comments : Bool) (h : mode.Sound t) :
    (mode.after comments t).Sound [] := by
  induction t generalizing mode with
  | nil => exact h
  | cons c rest ih => exact ih (sound_step comments h)

/-! ## §2 Without comments

A line is read twice: once to take its comments away, and once more, what is left of it, to see where its braces
and commas are. The second reading knows no comments, and it has to come to the same result.
-/

/-- The mode in which a text without its comments is read. -/
def Mode.uncommented : Mode → Mode
  | .lineComment => .code
  | .blockComment _ => .code
  | .within _ .comment next => next.uncommented
  | .within left role next => .within left role next.uncommented
  | mode => mode

/-- The characters of a text that belong to no comment, with their kinds. -/
def kept (mode : Mode) (t : Text) : List (Char × Kind) :=
  (t.zip (kinds true mode t)).filter fun p => p.2 != .comment

/-- The text of kept characters. -/
def keptText (mode : Mode) (t : Text) : Text := (kept mode t).map (·.1)

/-- The code of a line is what its comments leave of it. -/
theorem withoutComments_roles (mode : Mode) (t : Text) :
    withoutComments t (roles true mode t) = keptText mode t := by
  simp only [withoutComments, keptText, kept, kinds, List.zip_map_right, List.filter_map, List.map_map]
  congr 1
  apply List.filter_congr
  rintro ⟨c, role⟩ _
  cases role <;> rfl

theorem keptText_cons_of_comment {mode : Mode} {c : Char} {rest : Text}
    (h : (mode.step true c rest).1 = .comment) :
    keptText mode (c :: rest) = keptText (mode.step true c rest).2 rest := by
  simp [keptText, kept, h, Role.kind]

theorem keptText_cons {mode : Mode} {c : Char} {rest : Text}
    (h : (mode.step true c rest).1 ≠ .comment) :
    keptText mode (c :: rest) = c :: keptText (mode.step true c rest).2 rest := by
  have hkind : (mode.step true c rest).1.kind ≠ .comment :=
    fun h' => h (Role.kind_eq_comment_iff.1 h')
  simp [keptText, kept, hkind]

/-- Nothing is kept inside a line comment. -/
theorem keptText_lineComment (t : Text) : keptText .lineComment t = [] := by
  induction t with
  | nil => rfl
  | cons c t ih => exact (@keptText_cons_of_comment .lineComment c t rfl).trans ih

/-- Nothing is kept of a line comment. -/
theorem keptText_comment {t : Text} (h : bracketLevel t = none) :
    keptText .code ('-' :: '-' :: t) = [] := by
  have hstep := step_code_comment h
  rw [keptText_cons_of_comment (by rw [hstep]), hstep]
  exact keptText_lineComment _

/-- In front of a character that is part of no delimiter the code of a text is what it is on its own. -/
theorem keptText_append_cons {b : Char} (hb : isDelimiterChar b = false) (mode : Mode) (t u : Text) :
    keptText mode (t ++ b :: u) = keptText mode t ++ keptText (mode.after true t) (b :: u) := by
  induction t generalizing mode with
  | nil => rfl
  | cons c t ih =>
    obtain ⟨hmode, hkind⟩ := step_append_cons hb true mode c t u
    -- Looking ahead ends at this character, so what is a comment is one with and without the rest.
    have hrole : (mode.step true c (t ++ b :: u)).1 = .comment ↔ (mode.step true c t).1 = .comment := by
      rw [← Role.kind_eq_comment_iff, ← Role.kind_eq_comment_iff, hkind]
    rw [List.cons_append, after_cons]
    by_cases hcomment : (mode.step true c t).1 = .comment
    · rw [keptText_cons_of_comment (hrole.2 hcomment), keptText_cons_of_comment hcomment, hmode, ih]
    · rw [keptText_cons (fun h => hcomment (hrole.1 h)), keptText_cons hcomment, hmode, ih,
        List.cons_append]

theorem mem_of_mem_keptText {mode : Mode} {t : Text} {c : Char} (h : c ∈ keptText mode t) :
    c ∈ t := by
  obtain ⟨p, hp, rfl⟩ := List.mem_map.1 h
  exact (List.of_mem_zip (a := p.1) (b := p.2) (List.mem_filter.1 hp).1).1

theorem kept_suffix (mode : Mode) (c : Char) (rest : Text) :
    kept (mode.step true c rest).2 rest <:+ kept mode (c :: rest) := by
  unfold kept
  rw [kinds_cons, List.zip_cons_cons, List.filter_cons]
  split
  · exact List.suffix_cons _ _
  · exact List.suffix_rfl

/-- A delimiter is kept as a whole. -/
theorem keptText_within {left : Nat} {role : Role} (hrole : role ≠ .comment) (next : Mode)
    {w : Text} (hw : w.length = left + 1) (u : Text) :
    keptText (.within left role next) (w ++ u) = w ++ keptText next u := by
  induction left generalizing w with
  | zero =>
    obtain ⟨c, rfl⟩ := List.length_eq_one_iff.1 hw
    exact @keptText_cons (.within 0 role next) c u hrole
  | succ left ih =>
    obtain ⟨c, w, rfl⟩ := List.exists_cons_of_length_eq_add_one hw
    rw [List.cons_append, @keptText_cons (.within (left + 1) role next) c (w ++ u) hrole]
    exact congrArg (c :: ·) (ih (by simpa using hw))

/-- Inside a long string no comment starts before the closing bracket has been read. -/
theorem take_keptText_longString (level : Nat) (t : Text) {n : Nat} (hn : n ≤ level + 2) :
    (keptText (.longString level) t).take n = t.take n := by
  induction t generalizing n with
  | nil => rfl
  | cons c rest ih =>
    -- The closing bracket is kept as a whole; in front of it every character is kept.
    by_cases hclose : bracketCloser level <+: c :: rest
    · obtain ⟨v, more, rfl, hv⟩ := exists_of_prefix_cons (length_bracketCloser level) hclose
      have hstep : Mode.step true (.longString level) c (v ++ more) =
          (.delimiter, .within level .delimiter .code) := by
        simp [Mode.step, hclose]
      rw [keptText_cons (by simp [hstep]), hstep, keptText_within (by simp) _ hv,
        ← List.cons_append, ← List.cons_append,
        List.take_append_of_le_length (by simp [hv]; omega),
        List.take_append_of_le_length (by simp [hv]; omega)]
    · have hstep : Mode.step true (.longString level) c rest = (.content, .longString level) := by
        simp [Mode.step, hclose]
      rw [keptText_cons (by simp [hstep]), hstep]
      cases n with
      | zero => rfl
      | succ n => simp [ih (n := n) (by omega)]

/-! ## §3 The second reading -/

/-- No bracket that is code opens a long bracket once the comments are gone. -/
def NoNewBracket (chars : List (Char × Kind)) : Prop :=
  ∀ c rest, (c, Kind.code) :: rest <:+ chars → bracketLevel (c :: rest.map (·.1)) = none

theorem NoNewBracket.of_suffix {xs ys : List (Char × Kind)} (h : NoNewBracket ys)
    (hs : xs <:+ ys) : NoNewBracket xs :=
  fun c rest hc => h c rest (hc.trans hs)

theorem noNewBracket_of_not_mem {chars : List (Char × Kind)} (h : '[' ∉ chars.map (·.1)) :
    NoNewBracket chars := by
  intro c rest hsuffix
  refine bracketLevel_cons_eq_none (fun hc => h ?_) _
  exact hc ▸ List.mem_map.2 ⟨_, hsuffix.subset List.mem_cons_self, rfl⟩

/-- A character of a comment changes nothing for the second reading. -/
theorem uncommented_step_of_comment {mode : Mode} {c : Char} {rest : Text}
    (h : (mode.step true c rest).1 = .comment) :
    (mode.step true c rest).2.uncommented = mode.uncommented := by
  have hstep := stepCase true mode c rest
  generalize mode.step true c rest = s at hstep h ⊢
  -- Only steps in a comment, at its start or at its end, have the role of a comment.
  cases hstep with
  | delimiterEnd =>
    obtain rfl : _ = Role.comment := h
    rfl
  | delimiter =>
    obtain rfl : _ = Role.comment := h
    rfl
  | lineComment => rfl
  | blockComment => rfl
  | inLineComment => rfl
  | closingComment => rfl
  | inBlockComment => rfl
  | _ => cases h

/-- The second reading makes the same step over a character that is kept. -/
theorem step_uncommented {mode : Mode} {c : Char} {rest : Text}
    (h : (mode.step true c rest).1 ≠ .comment)
    (hbracket : (mode.step true c rest).1 = .code →
      bracketLevel (c :: keptText (mode.step true c rest).2 rest) = none) :
    (mode.uncommented.step false c (keptText (mode.step true c rest).2 rest)).2 =
        (mode.step true c rest).2.uncommented ∧
      (mode.uncommented.step false c (keptText (mode.step true c rest).2 rest)).1.kind =
        (mode.step true c rest).1.kind := by
  have hstep := stepCase true mode c rest
  generalize mode.step true c rest = s at hstep h hbracket ⊢
  cases hstep with
  | lineComment => exact absurd rfl h
  | blockComment => exact absurd rfl h
  | openingQuote hquote => simp [Mode.step, hquote, Mode.uncommented]
  | @openingBracket _ _ level hopener =>
    -- The opener is kept, so it stands there in the second reading too.
    have hquote : isQuote c = false := head_of_opener hopener ▸ rfl
    obtain ⟨v, more, rfl, hv⟩ := exists_of_prefix_cons (length_bracketOpener level) hopener
    have hkept : bracketLevel (c :: (v ++ keptText (.longString level) more)) = some level :=
      bracketLevel_eq_some_iff.2 (prefix_cons_append_of_length_le hopener (by simp [hv]) _)
    rw [keptText_within (by simp) _ hv]
    simp [Mode.step, hquote, Mode.uncommented, hkept]
  | code _ hquote _ => simp [Mode.step, hquote, Mode.uncommented, hbracket rfl]
  | @closingBracket level _ _ hcloser =>
    obtain ⟨v, more, rfl, hv⟩ := exists_of_prefix_cons (length_bracketCloser level) hcloser
    have hkept : bracketCloser level <+: c :: (v ++ keptText .code more) :=
      prefix_cons_append_of_length_le hcloser (by simp [hv]) _
    rw [keptText_within (by simp) _ hv]
    simp [Mode.step, Mode.uncommented, hkept]
  | @longString level _ _ hcloser =>
    have hkept : ¬bracketCloser level <+: c :: keptText (.longString level) rest := by
      intro hstart
      apply hcloser
      rw [List.prefix_iff_eq_take, length_bracketCloser, List.take_succ_cons,
        take_keptText_longString level rest (by omega)] at hstart
      rw [hstart]
      exact List.cons_prefix_cons.2 ⟨rfl, List.take_prefix _ _⟩
    simp [Mode.step, Mode.uncommented, hkept]
  | lineEnd => exact ⟨rfl, rfl⟩
  | backslash => exact ⟨rfl, rfl⟩
  | closingQuote hend hbackslash => simp [Mode.step, Mode.uncommented, hend, hbackslash]
  | quoted hend hbackslash hquote => simp [Mode.step, Mode.uncommented, hend, hbackslash, hquote]
  -- What follows an escaped quote decides its role, but not its kind.
  | escapedEnd =>
    refine ⟨rfl, ?_⟩
    simp only [Mode.step, Mode.uncommented]
    split <;> rfl
  | escaped =>
    refine ⟨rfl, ?_⟩
    simp only [Mode.step, Mode.uncommented]
    split <;> rfl
  | inLineComment => exact absurd rfl h
  | closingComment => exact absurd rfl h
  | inBlockComment => exact absurd rfl h
  | @delimiterEnd role =>
    cases role with
    | comment => exact absurd rfl h
    | _ => exact ⟨rfl, rfl⟩
  | @delimiter left role =>
    cases role with
    | comment => exact absurd rfl h
    | _ => exact ⟨rfl, rfl⟩

/-- **The second reading of a line.** It sees the same braces, and is left in the same mode, as the
first one. -/
theorem reread {mode : Mode} {t : Text} (h : NoNewBracket (kept mode t)) :
    braces false mode.uncommented (keptText mode t) = braces true mode t ∧
      mode.uncommented.after false (keptText mode t) = (mode.after true t).uncommented := by
  induction t generalizing mode with
  | nil => exact ⟨rfl, rfl⟩
  | cons c rest ih =>
    obtain ⟨ihbraces, ihafter⟩ := ih (h.of_suffix (kept_suffix mode c rest))
    rw [braces_cons, after_cons]
    -- A character of a comment is skipped, and any other one is read as before.
    by_cases hc : (mode.step true c rest).1 = .comment
    · rw [uncommented_step_of_comment hc] at ihbraces ihafter
      rw [keptText_cons_of_comment hc, ihbraces, ihafter, hc]
      exact ⟨rfl, rfl⟩
    · have hbracket : (mode.step true c rest).1 = .code →
          bracketLevel (c :: keptText (mode.step true c rest).2 rest) = none := by
        intro hcode
        have hkept : kept mode (c :: rest) =
            (c, .code) :: kept (mode.step true c rest).2 rest := by
          simp [kept, hcode, Role.kind]
        exact h c _ (hkept ▸ List.suffix_rfl)
      obtain ⟨hmode, hkind⟩ := step_uncommented hc hbracket
      rw [keptText_cons hc, braces_cons, after_cons, hmode, hkind, ihbraces, ihafter]
      exact ⟨rfl, rfl⟩

/-! ## §4 Between two lines

The code of the lines of a table is joined with line feeds. What is open at the end of a line must be open
behind the line feed as well.
-/

/-- The mode behind a line feed. -/
def Mode.lineFeed (mode : Mode) : Mode := (mode.step false '\n' []).2

theorem step_lineFeed (mode : Mode) (rest : Text) :
    (mode.step false '\n' rest).2 = mode.lineFeed := by
  cases mode with
  | code => simp [Mode.lineFeed, step_code_of_isBlank (c := '\n') rfl]
  | longString level =>
    simp [Mode.lineFeed, Mode.step, closer_isPrefixOf_cons_eq_false (c := '\n') (by decide)]
  | blockComment level =>
    simp [Mode.lineFeed, Mode.step, closer_isPrefixOf_cons_eq_false (c := '\n') (by decide)]
  | within left role next => cases left <;> rfl
  | _ => rfl

theorem step_quoted_of_isBlank {quote c : Char} (hquote : isQuote quote = true)
    (hc : isBlank c = true) (hn : c ≠ '\n') (comments : Bool) (rest : Text) :
    ((Mode.quoted quote).step comments c rest).2 = .quoted quote := by
  have hq : c ≠ quote := ne_of_isBlank hc (isBlank_eq_false_of_isQuote hquote)
  simp [Mode.step, hq, hn, ne_of_isBlank hc (d := '\\') rfl]

/-- Blanks at the end of a line leave a quoted literal open. -/
theorem after_quoted_blanks {quote : Char} (hquote : isQuote quote = true) {w : Text}
    (hw : Text.AllBlank w) (hn : '\n' ∉ w) (comments : Bool) :
    (Mode.quoted quote).after comments w = .quoted quote := by
  induction w with
  | nil => rfl
  | cons c w ih =>
    obtain ⟨hc, hw⟩ := Text.allBlank_cons.1 hw
    rw [List.mem_cons, not_or] at hn
    rw [after_cons, step_quoted_of_isBlank hquote hc (Ne.symm hn.1)]
    exact ih hw hn.2

theorem region_after_escaped_blanks {quote : Char} (hquote : isQuote quote = true) {w : Text}
    (hw : Text.AllBlank w) (hn : '\n' ∉ w) (comments : Bool) :
    ((Mode.escaped quote).after comments w).region = .quoted quote := by
  cases w with
  | nil => rfl
  | cons c w =>
    obtain ⟨-, hw⟩ := Text.allBlank_cons.1 hw
    rw [List.mem_cons, not_or] at hn
    rw [after_cons, show ((Mode.escaped quote).step comments c w).2 = .quoted quote from rfl,
      after_quoted_blanks hquote hw hn.2]
    rfl

/-- Blanks at the end of a line change nothing behind its line feed, unless a backslash stands in
front of them. -/
theorem lineFeed_after_blanks {mode : Mode} {w : Text} (hw : Text.AllBlank w) (hn : '\n' ∉ w)
    (hsound : mode.Sound []) (hescaped : ∀ quote, mode ≠ .escaped quote) :
    (mode.after false w).lineFeed = mode.lineFeed ∧
      ∀ quote, mode.after false w ≠ .escaped quote := by
  induction w with
  | nil => exact ⟨rfl, hescaped⟩
  | cons c w ih =>
    obtain ⟨hc, hw⟩ := Text.allBlank_cons.1 hw
    have hn' : '\n' ∉ w := fun h => hn (List.mem_cons_of_mem _ h)
    -- In every mode that is left a blank changes nothing.
    have hstep : (mode.step false c w).2 = mode := by
      cases mode with
      | code => exact ignoresBlanks_code false c w hc
      | quoted quote =>
        exact step_quoted_of_isBlank hsound hc (fun h => hn (h ▸ List.mem_cons_self)) false w
      | escaped quote => exact absurd rfl (hescaped quote)
      | longString level => exact ignoresBlanks_longString false level c w hc
      | lineComment => rfl
      | blockComment level => exact ignoresBlanks_blockComment false level c w hc
      | within left role next => exact absurd hsound.length_lt (by simp)
    rw [after_cons, hstep]
    exact ih hw hn'

/-- What a line leaves open for the second reading. -/
theorem lineFeed_uncommented {mode : Mode} (hsound : mode.Sound [])
    (hescaped : ∀ quote, mode.uncommented ≠ .escaped quote) :
    mode.uncommented.lineFeed = mode.carry.mode.uncommented := by
  cases mode with
  | escaped quote => exact absurd rfl (hescaped quote)
  | within left role next => exact absurd hsound.length_lt (by simp)
  | longString level => exact ignoresBlanks_longString false level '\n' [] rfl
  | _ => rfl

/-- A quoted literal that the second reading leaves open is left open by the first one too. -/
theorem region_of_uncommented {mode : Mode} (hsound : mode.Sound []) {quote : Char}
    (h : mode.uncommented.region = .quoted quote) : mode.region = .quoted quote := by
  cases mode with
  | within left role next => exact absurd hsound.length_lt (by simp)
  | lineComment => cases h
  | blockComment level => cases h
  | _ => exact h

theorem ignoresBlanks_carry (carry : Carry) : carry.mode.uncommented.IgnoresBlanks false := by
  cases carry with
  | nothing => exact ignoresBlanks_code false
  | longString level => exact ignoresBlanks_longString false level
  | blockComment level => exact ignoresBlanks_code false

theorem sound_uncommented_carry (carry : Carry) (t : Text) : carry.mode.uncommented.Sound t := by
  cases carry <;> trivial

/-- A line, trimmed and read again, shows the braces of the line. If the reading ends in an escape, then
the line ends in a quoted string; if not, the line feed behind it is read as the line end is. -/
theorem reread_line (carry : Carry) {raw : Text} (hraw : Unbroken raw)
    (hbracket : NoNewBracket (kept carry.mode raw)) :
    braces false carry.mode.uncommented (keptText carry.mode raw).strip =
        braces true carry.mode raw ∧
      (∀ quote, carry.mode.uncommented.after false (keptText carry.mode raw).strip =
          .escaped quote → (carry.mode.after true raw).region = .quoted quote) ∧
      ((∀ quote, carry.mode.uncommented.after false (keptText carry.mode raw).strip ≠
          .escaped quote) →
        (carry.mode.uncommented.after false (keptText carry.mode raw).strip).lineFeed =
          (carry.mode.after true raw).carry.mode.uncommented) := by
  obtain ⟨hbraces, hafter⟩ := reread hbracket
  obtain ⟨b₁, b₂, hb₁, hb₂, hkept⟩ := Text.exists_blanks_strip (keptText carry.mode raw)
  have hblanks := ignoresBlanks_carry carry
  have hn : '\n' ∉ b₂ := by
    intro h
    have hmem : '\n' ∈ keptText carry.mode raw := by
      rw [hkept]
      simp [h]
    exact absurd (hraw _ (mem_of_mem_keptText hmem)) (by decide)
  rw [hkept] at hbraces hafter
  rw [braces_blanks hblanks hb₁, braces_append_blanks _ _ _ hb₂] at hbraces
  rw [after_blanks hblanks hb₁, after_append_blanks _ _ _ hb₂] at hafter
  have hsound := sound_after false (t := (keptText carry.mode raw).strip)
    (sound_uncommented_carry carry _)
  have hsound_raw := sound_after true (sound_carry carry raw)
  refine ⟨hbraces, fun quote hescaped => ?_, fun hescaped => ?_⟩
  · -- The blanks at the end of the line may stand behind the escape, but they close no literal.
    rw [hescaped] at hsound hafter
    have hregion := region_after_escaped_blanks hsound hb₂ hn false
    rw [hafter] at hregion
    exact region_of_uncommented hsound_raw hregion
  obtain ⟨hfeed, hescaped'⟩ := lineFeed_after_blanks hb₂ hn hsound hescaped
  rw [hafter] at hfeed hescaped'
  rw [← hfeed]
  exact lineFeed_uncommented hsound_raw hescaped'

/-! ## §5 Lines of a scan -/

/-- How many backslashes stand at the end of a text. -/
def trailingBackslashes (t : Text) : Nat := (t.reverse.takeWhile (· == '\\')).length

theorem trailingBackslashes_concat (t : Text) (c : Char) :
    trailingBackslashes (t ++ [c]) = if c = '\\' then trailingBackslashes t + 1 else 0 := by
  by_cases hc : c = '\\' <;> simp [trailingBackslashes, hc]

/-- The line ends inside a quoted string, and the backslash at the end of its trimmed code is not
escaped itself. -/
def LexedLine.EndsEscaped (l : LexedLine) : Prop :=
  (∃ quote, l.stop.region = .quoted quote) ∧ trailingBackslashes l.code.strip % 2 = 1

/-- Only a backslash starts an escape. -/
theorem eq_of_step_escaped {mode : Mode} {c : Char} {rest : Text} {comments : Bool} {quote : Char}
    (hsound : mode.Sound (c :: rest)) (h : (mode.step comments c rest).2 = .escaped quote) :
    c = '\\' := by
  have hstep := stepCase comments mode c rest
  generalize mode.step comments c rest = s at hstep h
  cases hstep with
  | backslash => rfl
  | delimiterEnd => exact absurd h (hsound.next_ne quote).2
  | _ => cases h

/-- What ends in the middle of an escape ends in its backslash. -/
theorem getLast?_of_after_escaped {mode : Mode} {t : Text} {comments : Bool} {quote : Char}
    (hsound : mode.Sound t) (h : mode.after comments t = .escaped quote) :
    t = [] ∨ t.getLast? = some '\\' := by
  induction t generalizing mode with
  | nil => exact .inl rfl
  | cons c rest ih =>
    right
    -- The escape starts at the last character or further on, and it starts with a backslash.
    rcases ih (sound_step comments hsound) h with rfl | hlast
    · rw [eq_of_step_escaped hsound h]
      rfl
    · rw [List.getLast?_cons, hlast]
      rfl

/-- A backslash at the end of a text starts an escape or is one. -/
theorem step_backslash {mode : Mode} (hsound : mode.Sound []) (comments : Bool) (quote : Char) :
    ((mode.step comments '\\' []).2 = .escaped quote → mode = .quoted quote) ∧
      ((mode.step comments '\\' []).2 = .quoted quote → mode = .escaped quote) := by
  cases mode with
  | within left role next => exact absurd hsound.length_lt (by simp)
  | _ => simp [Mode.step, isQuote, bracketLevel, bracketCloser]

/-- What is left open behind a text tells the parity of the backslashes at its end. -/
theorem trailingBackslashes_parity {mode : Mode} (comments : Bool) (t : Text)
    (hsound : ∀ u, mode.Sound u) (hmode : ∀ quote, mode ≠ .quoted quote ∧ mode ≠ .escaped quote)
    (quote : Char) :
    (mode.after comments t = .escaped quote → trailingBackslashes t % 2 = 1) ∧
      (mode.after comments t = .quoted quote → trailingBackslashes t % 2 = 0) := by
  -- The end of the text decides, so the induction goes from the front to the last character.
  induction t using List.reverseRecOn with
  | nil => exact ⟨fun h => absurd h (hmode quote).2, fun _ => rfl⟩
  | append_singleton t c ih =>
    rw [trailingBackslashes_concat]
    by_cases hc : c = '\\'
    · subst hc
      have hstep := after_append_cons (b := '\\') rfl comments t [] mode
      rw [after_cons, after_nil] at hstep
      obtain ⟨hescaped, hquoted⟩ := step_backslash (sound_after comments (hsound t)) comments quote
      rw [hstep, if_pos rfl]
      constructor
      · intro h
        have := ih.2 (hescaped h)
        omega
      · intro h
        have := ih.1 (hquoted h)
        omega
    · rw [if_neg hc]
      refine ⟨fun h => ?_, fun _ => rfl⟩
      rcases getLast?_of_after_escaped (hsound _) h with hnil | hlast
      · exact absurd hnil (by simp)
      · exact absurd (by simpa using hlast) hc

/-- Nothing but blanks is left of a directive. -/
theorem strip_keptText_directive {raw : Text} (h : directiveMark <+: raw.strip) :
    (keptText .code raw).strip = [] := by
  obtain ⟨b, b', hb, -, hraw⟩ := Text.exists_blanks_strip raw
  obtain ⟨rest, hrest⟩ := h.trans (List.prefix_append raw.strip b')
  -- The mark is two dashes with no bracket behind them, so all behind it is a line comment.
  have hmark : keptText .code (directiveMark ++ rest) = [] :=
    keptText_comment (t := '-' :: '@' :: rest) (bracketLevel_cons_eq_none (by decide) _)
  have hblanks : keptText .code raw = b := by
    rw [hraw, ← hrest]
    clear hraw
    -- The blanks in front of it are kept.
    induction b with
    | nil => exact hmark
    | cons c b ih =>
      obtain ⟨hc, hb⟩ := Text.allBlank_cons.1 hb
      have hstep := step_code_of_isBlank hc true (b ++ (directiveMark ++ rest))
      rw [List.cons_append, keptText_cons (by simp [hstep]), hstep, ih hb]
  rw [hblanks]
  exact Text.strip_eq_nil hb

theorem depthBefore_scanLine (state : ScanState) (raw : Text) :
    (scanLine state raw).1.depthBefore = state.depth := by
  simp only [scanLine]
  split <;> rfl

/-- A line starts inside what the line above has left open. -/
theorem isContinuation_scanLine (state : ScanState) (raw : Text) :
    (scanLine state raw).1.isContinuation = (state.carry != .nothing) := by
  simp only [scanLine]
  split
  · rename_i hdirective
    exact (Bool.eq_false_iff.2 hdirective.1).symm
  · rfl

theorem carry_eq_nothing {state : ScanState} {raw : Text}
    (h : (scanLine state raw).1.isContinuation = false) : state.carry = .nothing := by
  rw [isContinuation_scanLine] at h
  simpa using h

theorem code_eq_text {line : ScannedLine} (h : line.isDirective = false) : line.code = line.text := by
  simp [ScannedLine.code, h]

section

variable {state : ScanState} {raw : Text} {ws : List Lexeme} {q : Position}
  (h : LineReads state.position raw ws q)

include h

theorem LineReads.kept_eq :
    (LexedLine.mk state.position ws).kept = kept state.carry.mode raw := by
  have hmode : state.position.region.mode = state.carry.mode := region_carry_mode state.carry
  simp only [LexedLine.kept, LexedLine.chars, h.chars_eq, hmode, kept]

/-- What a scanned line contributes to a table is its text without comments, trimmed. -/
theorem code_scanLine :
    (scanLine state raw).1.code = (keptText state.carry.mode raw).strip := by
  have hagrees := (scanLine_agrees h).1
  have hcode : (LexedLine.mk state.position ws).code = keptText state.carry.mode raw := by
    rw [LexedLine.code, h.kept_eq, keptText]
  cases hdir : (scanLine state raw).1.isDirective with
  | false => simp only [ScannedLine.code, hdir, hagrees.text_of_code hdir, hcode]; rfl
  | true =>
    -- Nothing but blanks is in front of the mark of a directive.
    obtain ⟨hcontinuation, hmark⟩ := hagrees.directive_iff.1 hdir
    rw [h.text_eq] at hmark
    have hnothing := carry_eq_nothing (hagrees.isContinuation_eq.trans hcontinuation)
    simp only [ScannedLine.code, hdir, hnothing]
    exact (strip_keptText_directive hmark).symm

theorem trimmed_code_scanLine : Text.Trimmed (scanLine state raw).1.code := by
  rw [code_scanLine h]
  exact Text.trimmed_strip _

theorem unbroken_code_scanLine (hraw : Unbroken raw) : Unbroken (scanLine state raw).1.code := by
  intro c hc
  rw [code_scanLine h] at hc
  exact hraw c (mem_of_mem_keptText (Text.mem_of_mem_strip hc))

theorem carry_scanLine :
    (scanLine state raw).2.carry.mode = (state.carry.mode.after true raw).carry.mode := by
  have hposition := congrArg Position.region (scanLine_agrees h).2
  have hmode : state.position.region.mode = state.carry.mode := region_carry_mode state.carry
  rw [mode_carry_eq, ← hmode, h.region_eq, ← region_carry_mode]
  exact congrArg Region.mode hposition

/-- **A line of a scan, read again.** If the gaps that comments leave make no long bracket, then the code
of the line shows the braces of the line; and if the line does not end in an escape, the line feed
behind it is read as the line end is. -/
theorem reread_scanLine (hraw : Unbroken raw)
    (hbracket : NoNewBracket (LexedLine.mk state.position ws).kept) :
    braces false state.carry.mode.uncommented (scanLine state raw).1.code =
        ws.flatMap Lexeme.braces ∧
      (¬(LexedLine.mk state.position ws).EndsEscaped →
        (state.carry.mode.uncommented.after false (scanLine state raw).1.code).lineFeed =
          (scanLine state raw).2.carry.mode.uncommented) := by
  have hmode : state.position.region.mode = state.carry.mode := region_carry_mode state.carry
  have hcode : (LexedLine.mk state.position ws).code = keptText state.carry.mode raw := by
    rw [LexedLine.code, h.kept_eq, keptText]
  have hstop : (LexedLine.mk state.position ws).stop = q := h.stop_eq
  rw [h.kept_eq] at hbracket
  obtain ⟨hbraces, hopen, hfeed⟩ := reread_line state.carry hraw hbracket
  rw [code_scanLine h, carry_scanLine h]
  -- If the reading ends in an escape, an odd number of backslashes is at the end of the code.
  refine ⟨by rw [hbraces, ← hmode, h.braces_eq], fun hends => hfeed fun quote hescaped => hends ?_⟩
  have hparity := (trailingBackslashes_parity false (keptText state.carry.mode raw).strip
    (sound_uncommented_carry state.carry) (by cases state.carry <;> simp [Carry.mode, Mode.uncommented])
    quote).1 hescaped
  refine ⟨⟨quote, ?_⟩, by rw [hcode]; exact hparity⟩
  rw [hstop, ← h.region_eq, hmode]
  exact hopen quote hescaped

end

end LuaAccessors.Lexis
