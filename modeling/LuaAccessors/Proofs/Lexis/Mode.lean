import LuaAccessors.Lexis.Scan
import LuaAccessors.Proofs.Lexis.Lexer
import LuaAccessors.Proofs.Lexis.LongBracket
import LuaAccessors.Proofs.Text.Strip

/-!
# Reading a text piece by piece

How the machine of modes reads a text that is put together from pieces. What it says of a character
matters only up to the kind of its lexeme, so the statements speak of kinds, of the braces in code and
of the mode behind a text.

- `Role.kind`, `kinds`, `braces`: what is kept of a reading;
- `StepCase`, `stepCase`: everything that one step can do;
- `step_append_cons`: a character that is part of no delimiter ends every look ahead;
- `braces_append_cons`, `after_append_cons`: reading two pieces one after the
  other;
- `roles_within`, `kinds_within`, `braces_within`, `after_within`: a delimiter is read as a whole.
-/

namespace LuaAccessors.Lexis

/-! ## §1 Kinds and braces -/

/-- The kind of a lexeme that a character of this role is part of. -/
def Role.kind : Role → Kind
  | .code => .code
  | .delimiter => .literal
  | .content => .literal
  | .comment => .comment

/-- The kinds of the characters of a text that is read from a given mode. -/
def kinds (comments : Bool) (mode : Mode) (t : Text) : List Kind :=
  (roles comments mode t).map Role.kind

/-- The braces of a text that stand in code. -/
def braces (comments : Bool) : Mode → Text → Text
  | _, [] => []
  | mode, c :: rest =>
    if (mode.step comments c rest).1 = .code ∧ isBrace c = true then
      c :: braces comments (mode.step comments c rest).2 rest
    else braces comments (mode.step comments c rest).2 rest

@[simp] theorem kinds_nil (comments : Bool) (mode : Mode) : kinds comments mode [] = [] := rfl

@[simp] theorem kinds_cons (comments : Bool) (mode : Mode) (c : Char) (rest : Text) :
    kinds comments mode (c :: rest) =
      (mode.step comments c rest).1.kind :: kinds comments (mode.step comments c rest).2 rest := rfl

@[simp] theorem length_kinds (comments : Bool) (mode : Mode) (t : Text) :
    (kinds comments mode t).length = t.length := by
  simp [kinds]

@[simp] theorem after_nil (comments : Bool) (mode : Mode) : mode.after comments [] = mode := rfl

@[simp] theorem after_cons (comments : Bool) (mode : Mode) (c : Char) (rest : Text) :
    mode.after comments (c :: rest) = (mode.step comments c rest).2.after comments rest := rfl

theorem Role.kind_eq_code_iff {r : Role} : r.kind = .code ↔ r = .code := by
  cases r <;> simp [Role.kind]

theorem Role.kind_eq_comment_iff {r : Role} : r.kind = .comment ↔ r = .comment := by
  cases r <;> simp [Role.kind]

/-- The braces of a text depend on the kinds of its characters only. -/
theorem braces_cons (comments : Bool) (mode : Mode) (c : Char) (rest : Text) :
    braces comments mode (c :: rest) =
      (if (mode.step comments c rest).1.kind = .code ∧ isBrace c = true then [c] else []) ++
        braces comments (mode.step comments c rest).2 rest := by
  rw [braces]
  simp only [Role.kind_eq_code_iff]
  split <;> rfl

/-- Only a brace changes the depth. -/
theorem depthBehind_of_not_brace {c : Char} (h : isBrace c = false) (depth : Nat) :
    depthBehind depth c = depth := by
  have h' : c ≠ '{' ∧ c ≠ '}' := by simpa [isBrace] using h
  simp [depthBehind, h'.1, h'.2]

/-- The depth behind a text follows its braces in code. -/
theorem depthAfter_eq_foldl (comments : Bool) (mode : Mode) (t : Text) (depth : Nat) :
    depthAfter depth t (roles comments mode t) =
      (braces comments mode t).foldl depthBehind depth := by
  induction t generalizing mode depth with
  | nil => rfl
  | cons c rest ih =>
    have hstep : depthAfter depth (c :: rest) (roles comments mode (c :: rest)) =
        depthAfter (stepDepth depth c (mode.step comments c rest).1) rest
          (roles comments (mode.step comments c rest).2 rest) := rfl
    rw [hstep, ih, braces]
    -- Only a brace in code changes the depth, and only such a brace is listed.
    by_cases hc : (mode.step comments c rest).1 = .code
    · by_cases hb : isBrace c = true
      · simp [hc, hb, stepDepth, depthBehind]
      · have hsame := depthBehind_of_not_brace (Bool.eq_false_iff.2 hb) depth
        simp only [depthBehind] at hsame
        simp [hc, hb, stepDepth, hsame]
    · simp [hc, stepDepth]

/-! ## §2 One step

All that one step of the machine can do, with what it has looked at. Later proofs go through these cases and
never unfold the step.
-/

/-- What one step can do: `StepCase comments mode c rest s` says in which situations the machine answers
`s` on the character `c` in front of `rest`. -/
inductive StepCase (comments : Bool) : Mode → Char → Text → Role × Mode → Prop where
  | lineComment {rest : Text} (hcomments : comments = true) (hlevel : bracketLevel rest = none) :
      StepCase comments .code '-' ('-' :: rest) (.comment, .lineComment)
  | blockComment {rest : Text} {level : Nat} (hcomments : comments = true)
      (hopener : bracketOpener level <+: rest) :
      StepCase comments .code '-' ('-' :: rest)
        (.comment, .within (level + 2) .comment (.blockComment level))
  | openingQuote {c : Char} {rest : Text} (hquote : isQuote c = true) :
      StepCase comments .code c rest (.delimiter, .quoted c)
  | openingBracket {c : Char} {rest : Text} {level : Nat}
      (hopener : bracketOpener level <+: c :: rest) :
      StepCase comments .code c rest (.delimiter, .within level .delimiter (.longString level))
  | code {c : Char} {rest : Text}
      (hcomment : ¬(comments = true ∧ c = '-' ∧ rest.head? = some '-')) (hquote : isQuote c = false)
      (hlevel : bracketLevel (c :: rest) = none) : StepCase comments .code c rest (.code, .code)
  | lineEnd {quote : Char} {rest : Text} :
      StepCase comments (.quoted quote) '\n' rest (.code, .code)
  | backslash {quote : Char} {rest : Text} :
      StepCase comments (.quoted quote) '\\' rest (.content, .escaped quote)
  | closingQuote {quote : Char} {rest : Text} (hend : quote ≠ '\n') (hbackslash : quote ≠ '\\') :
      StepCase comments (.quoted quote) quote rest (.delimiter, .code)
  | quoted {quote c : Char} {rest : Text} (hend : c ≠ '\n') (hbackslash : c ≠ '\\')
      (hquote : c ≠ quote) : StepCase comments (.quoted quote) c rest (.content, .quoted quote)
  | escapedEnd {quote : Char} {rest : Text} (hend : endsOpen rest = true) :
      StepCase comments (.escaped quote) quote rest (.delimiter, .quoted quote)
  | escaped {quote c : Char} {rest : Text} (hend : ¬(c = quote ∧ endsOpen rest = true)) :
      StepCase comments (.escaped quote) c rest (.content, .quoted quote)
  | closingBracket {level : Nat} {c : Char} {rest : Text}
      (hcloser : bracketCloser level <+: c :: rest) :
      StepCase comments (.longString level) c rest (.delimiter, .within level .delimiter .code)
  | longString {level : Nat} {c : Char} {rest : Text}
      (hcloser : ¬bracketCloser level <+: c :: rest) :
      StepCase comments (.longString level) c rest (.content, .longString level)
  | inLineComment {c : Char} {rest : Text} :
      StepCase comments .lineComment c rest (.comment, .lineComment)
  | closingComment {level : Nat} {c : Char} {rest : Text}
      (hcloser : bracketCloser level <+: c :: rest) :
      StepCase comments (.blockComment level) c rest (.comment, .within level .comment .code)
  | inBlockComment {level : Nat} {c : Char} {rest : Text}
      (hcloser : ¬bracketCloser level <+: c :: rest) :
      StepCase comments (.blockComment level) c rest (.comment, .blockComment level)
  | delimiterEnd {role : Role} {next : Mode} {c : Char} {rest : Text} :
      StepCase comments (.within 0 role next) c rest (role, next)
  | delimiter {left : Nat} {role : Role} {next : Mode} {c : Char} {rest : Text} :
      StepCase comments (.within (left + 1) role next) c rest (role, .within left role next)

/-- Every step of the machine is one of these. -/
theorem stepCase (comments : Bool) (mode : Mode) (c : Char) (rest : Text) :
    StepCase comments mode c rest (mode.step comments c rest) := by
  -- The conditions of the machine are tried in their order, so each case also says that those before it fail.
  cases mode with
  | code =>
    simp only [Mode.step]
    split
    · rename_i hc
      obtain ⟨hcomments, rfl, hhead⟩ := hc
      obtain ⟨more, rfl⟩ := List.head?_eq_some_iff.1 hhead
      rw [List.tail_cons]
      cases hlevel : bracketLevel more with
      | none => exact .lineComment hcomments hlevel
      | some level => exact .blockComment hcomments (bracketLevel_eq_some_iff.1 hlevel)
    · cases hquote : isQuote c with
      | true => exact .openingQuote hquote
      | false =>
        cases hlevel : bracketLevel (c :: rest) with
        | none => exact .code ‹_› hquote hlevel
        | some level => exact .openingBracket (bracketLevel_eq_some_iff.1 hlevel)
  | quoted quote =>
    simp only [Mode.step]
    split
    · subst c
      exact .lineEnd
    · split
      · subst c
        exact .backslash
      · split
        · subst c
          exact .closingQuote ‹_› ‹_›
        · exact .quoted ‹_› ‹_› ‹_›
  | escaped quote =>
    simp only [Mode.step]
    split
    · rename_i hend
      obtain ⟨rfl, hend⟩ := hend
      exact .escapedEnd hend
    · exact .escaped ‹_›
  | longString level =>
    simp only [Mode.step, List.isPrefixOf_iff_prefix]
    split
    · exact .closingBracket ‹_›
    · exact .longString ‹_›
  | lineComment => exact .inLineComment
  | blockComment level =>
    simp only [Mode.step, List.isPrefixOf_iff_prefix]
    split
    · exact .closingComment ‹_›
    · exact .inBlockComment ‹_›
  | within left role next =>
    cases left with
    | zero => exact .delimiterEnd
    | succ left => exact .delimiter

/-! ## §3 Where looking ahead ends

A step looks at the text behind the character. If that text is extended, the step stays the same unless a
bracket or a comment goes on across the end, and these are the seams that the statements about texts in two
parts exclude.
-/

/-- A character that delimiters of more than one character are made of. -/
def isDelimiterChar (c : Char) : Bool := c == '-' || c == '=' || c == '[' || c == ']'

theorem ne_of_isDelimiterChar_eq_false {c : Char} (h : isDelimiterChar c = false) :
    c ≠ '-' ∧ c ≠ '=' ∧ c ≠ '[' ∧ c ≠ ']' := by
  simpa [isDelimiterChar, and_assoc] using h

/-- A character that is part of no delimiter ends every look ahead: the machine does the same step
whether such a character or the end of the text follows. -/
theorem step_append_cons_of_not_escaped {b : Char} (hb : isDelimiterChar b = false)
    (comments : Bool) {mode : Mode} (hmode : ∀ quote, mode ≠ .escaped quote) (c : Char) (t u : Text) :
    mode.step comments c (t ++ b :: u) = mode.step comments c t := by
  obtain ⟨hdash, hsign, hopen, hclose⟩ := ne_of_isDelimiterChar_eq_false hb
  cases mode with
  | code =>
    have hlevel : bracketLevel (c :: (t ++ b :: u)) = bracketLevel (c :: t) :=
      bracketLevel_append_cons hopen hsign (c :: t) u
    cases t with
    | nil =>
      -- At the end of `t` the character `b` takes the place of the second dash.
      rw [List.nil_append] at hlevel
      simp [Mode.step, hdash, hlevel]
    | cons d t =>
      have htail := bracketLevel_append_cons hopen hsign t u
      rw [List.cons_append] at hlevel
      simp [Mode.step, htail, hlevel]
  | quoted quote => rfl
  | escaped quote => exact absurd rfl (hmode quote)
  | longString level =>
    have h := closer_isPrefixOf_append_cons hclose hsign level (c :: t) u
    rw [List.cons_append] at h
    simp [Mode.step, h]
  | lineComment => rfl
  | blockComment level =>
    have h := closer_isPrefixOf_append_cons hclose hsign level (c :: t) u
    rw [List.cons_append] at h
    simp [Mode.step, h]
  | within left role next => cases left <;> rfl

/-- Behind a backslash the role may differ, but not the kind. -/
theorem step_append_cons {b : Char} (hb : isDelimiterChar b = false) (comments : Bool) (mode : Mode)
    (c : Char) (t u : Text) :
    (mode.step comments c (t ++ b :: u)).2 = (mode.step comments c t).2 ∧
      (mode.step comments c (t ++ b :: u)).1.kind = (mode.step comments c t).1.kind := by
  -- Behind a backslash the role depends on whether the text ends there, but not the kind.
  by_cases hmode : ∀ quote, mode ≠ .escaped quote
  · rw [step_append_cons_of_not_escaped hb comments hmode]
    exact ⟨rfl, rfl⟩
  · obtain ⟨quote, rfl⟩ : ∃ quote, mode = .escaped quote := by simpa using hmode
    refine ⟨rfl, ?_⟩
    simp only [Mode.step]
    split <;> split <;> rfl

/-- A line feed ends a literal that is left open, as the end of the text does. -/
theorem step_append_lineFeed (comments : Bool) (mode : Mode) (c : Char) (t u : Text) :
    mode.step comments c (t ++ '\n' :: u) = mode.step comments c t := by
  by_cases hmode : ∀ quote, mode ≠ .escaped quote
  · exact step_append_cons_of_not_escaped (b := '\n') rfl comments hmode c t u
  · obtain ⟨quote, rfl⟩ : ∃ quote, mode = .escaped quote := by simpa using hmode
    cases t <;> simp [Mode.step, endsOpen]

section

variable {b : Char} (hb : isDelimiterChar b = false) (comments : Bool) (t u : Text)

include hb

theorem after_append_cons (mode : Mode) :
    mode.after comments (t ++ b :: u) = (mode.after comments t).after comments (b :: u) := by
  induction t generalizing mode with
  | nil => rfl
  | cons c t ih =>
    rw [List.cons_append, after_cons, (step_append_cons hb comments mode c t u).1, ih,
      after_cons comments mode c t]

theorem braces_append_cons (mode : Mode) :
    braces comments mode (t ++ b :: u) =
      braces comments mode t ++ braces comments (mode.after comments t) (b :: u) := by
  induction t generalizing mode with
  | nil => rfl
  | cons c t ih =>
    obtain ⟨hmode, hkind⟩ := step_append_cons hb comments mode c t u
    rw [List.cons_append, braces_cons, hmode, hkind, ih, braces_cons comments mode c t,
      after_cons comments mode c t, List.append_assoc]

end

/-! ## §4 Delimiters -/

section

variable (comments : Bool) {left : Nat} (role : Role) (next : Mode) {w : Text}
  (hw : w.length = left + 1) (u : Text)

include hw

theorem after_within :
    (Mode.within left role next).after comments (w ++ u) = next.after comments u := by
  induction left generalizing w with
  | zero =>
    obtain ⟨c, rfl⟩ := List.length_eq_one_iff.1 hw
    rfl
  | succ left ih =>
    obtain ⟨c, w, rfl⟩ := List.exists_cons_of_length_eq_add_one hw
    exact ih (by simpa using hw)

theorem roles_within :
    roles comments (.within left role next) (w ++ u) =
      List.replicate w.length role ++ roles comments next u := by
  induction left generalizing w with
  | zero =>
    obtain ⟨c, rfl⟩ := List.length_eq_one_iff.1 hw
    rfl
  | succ left ih =>
    obtain ⟨c, w, rfl⟩ := List.exists_cons_of_length_eq_add_one hw
    rw [List.cons_append, List.length_cons, List.replicate_succ, List.cons_append]
    exact congrArg (role :: ·) (ih (by simpa using hw))

theorem kinds_within :
    kinds comments (.within left role next) (w ++ u) =
      List.replicate w.length role.kind ++ kinds comments next u := by
  rw [kinds, roles_within comments role next hw, List.map_append, List.map_replicate, kinds]

theorem braces_within (hrole : role ≠ .code) :
    braces comments (.within left role next) (w ++ u) = braces comments next u := by
  induction left generalizing w with
  | zero =>
    obtain ⟨c, rfl⟩ := List.length_eq_one_iff.1 hw
    simp [braces, Mode.step, hrole]
  | succ left ih =>
    obtain ⟨c, w, rfl⟩ := List.exists_cons_of_length_eq_add_one hw
    rw [List.cons_append, braces, if_neg (fun h => hrole h.1)]
    exact ih (by simpa using hw)

end

/-! ## §5 Plain characters and blanks -/

theorem ne_of_isBlank {c d : Char} (hc : isBlank c = true) (hd : isBlank d = false) : c ≠ d := by
  rintro rfl
  rw [hc] at hd
  cases hd

theorem eq_of_isQuote {c : Char} (h : isQuote c = true) : c = '"' ∨ c = '\'' := by
  simpa [isQuote] using h

theorem isBlank_eq_false_of_isQuote {c : Char} (h : isQuote c = true) : isBlank c = false := by
  rcases eq_of_isQuote h with rfl | rfl <;> rfl

/-- A character that starts no literal and no comment. -/
def isBare (c : Char) : Bool := !isQuote c && c != '[' && c != '-'

/-- A character that starts no literal and no comment and is no brace. -/
def isPlain (c : Char) : Bool := isBare c && !isBrace c

theorem isPlain_of_isBlank {c : Char} (hc : isBlank c = true) : isPlain c = true := by
  simp [isPlain, isBare, isQuote, isBrace, ne_of_isBlank hc (d := '"') rfl,
    ne_of_isBlank hc (d := '\'') rfl, ne_of_isBlank hc (d := '[') rfl,
    ne_of_isBlank hc (d := '-') rfl, ne_of_isBlank hc (d := '{') rfl,
    ne_of_isBlank hc (d := '}') rfl]

theorem isBare_of_isPlain {c : Char} (hc : isPlain c = true) : isBare c = true := by
  simp only [isPlain, Bool.and_eq_true] at hc
  exact hc.1

theorem isBrace_eq_false_of_isPlain {c : Char} (hc : isPlain c = true) : isBrace c = false := by
  simp only [isPlain, Bool.and_eq_true, Bool.not_eq_true'] at hc
  exact hc.2

/-- A bare character is code where code is read. -/
theorem step_code_of_isBare {c : Char} (hc : isBare c = true) (comments : Bool) (rest : Text) :
    Mode.step comments .code c rest = (.code, .code) := by
  simp only [isBare, Bool.and_eq_true, Bool.not_eq_true', bne_iff_ne] at hc
  obtain ⟨⟨hquote, hopen⟩, hdash⟩ := hc
  simp [Mode.step, hdash, hquote, bracketLevel_cons_eq_none hopen]

theorem step_code_of_isPlain {c : Char} (hc : isPlain c = true) (comments : Bool) (rest : Text) :
    Mode.step comments .code c rest = (.code, .code) :=
  step_code_of_isBare (isBare_of_isPlain hc) comments rest

theorem step_code_of_isBlank {c : Char} (hc : isBlank c = true) (comments : Bool) (rest : Text) :
    Mode.step comments .code c rest = (.code, .code) :=
  step_code_of_isPlain (isPlain_of_isBlank hc) comments rest

section

variable {comments : Bool} {w : Text} (hw : ∀ c ∈ w, isPlain c = true) (t : Text)

include hw

theorem after_plain : Mode.code.after comments (w ++ t) = Mode.code.after comments t := by
  induction w with
  | nil => rfl
  | cons c w ih =>
    rw [List.cons_append, after_cons, step_code_of_isPlain (hw c List.mem_cons_self)]
    exact ih fun d hd => hw d (List.mem_cons_of_mem _ hd)

theorem braces_plain : braces comments .code (w ++ t) = braces comments .code t := by
  induction w with
  | nil => rfl
  | cons c w ih =>
    have hc := hw c List.mem_cons_self
    rw [List.cons_append, braces_cons, step_code_of_isPlain hc, isBrace_eq_false_of_isPlain hc]
    simpa using ih fun d hd => hw d (List.mem_cons_of_mem _ hd)

end

theorem isBrace_eq_false_of_isBlank {c : Char} (hc : isBlank c = true) : isBrace c = false :=
  isBrace_eq_false_of_isPlain (isPlain_of_isBlank hc)

/-! ### Line comments -/

theorem braces_lineComment (comments : Bool) (t : Text) : braces comments .lineComment t = [] := by
  induction t with
  | nil => rfl
  | cons c t ih => simp [braces, Mode.step, ih]

theorem after_lineComment (comments : Bool) (t : Text) :
    Mode.lineComment.after comments t = .lineComment := by
  induction t with
  | nil => rfl
  | cons c t ih => exact ih

theorem step_code_comment {t : Text} (h : bracketLevel t = none) :
    Mode.step true .code '-' ('-' :: t) = (.comment, .lineComment) := by
  simp [Mode.step, h]

/-- Two minus signs that no long bracket follows start a comment that takes the rest of the line. -/
theorem reads_comment {t : Text} (h : bracketLevel t = none) :
    braces true .code ('-' :: '-' :: t) = [] ∧
      Mode.code.after true ('-' :: '-' :: t) = .lineComment := by
  rw [braces, after_cons, step_code_comment h, braces_lineComment, after_lineComment]
  exact ⟨rfl, rfl⟩

/-! ### Blanks -/

/-- A mode that blanks leave as it is. -/
def Mode.IgnoresBlanks (comments : Bool) (mode : Mode) : Prop :=
  ∀ c rest, isBlank c = true → (mode.step comments c rest).2 = mode

theorem ignoresBlanks_code (comments : Bool) : Mode.code.IgnoresBlanks comments :=
  fun _ rest hc => by rw [step_code_of_isBlank hc comments rest]

theorem ignoresBlanks_longString (comments : Bool) (level : Nat) :
    (Mode.longString level).IgnoresBlanks comments := by
  intro c rest hc
  simp [Mode.step, closer_isPrefixOf_cons_eq_false (ne_of_isBlank hc rfl)]

theorem ignoresBlanks_blockComment (comments : Bool) (level : Nat) :
    (Mode.blockComment level).IgnoresBlanks comments := by
  intro c rest hc
  simp [Mode.step, closer_isPrefixOf_cons_eq_false (ne_of_isBlank hc rfl)]

section

variable {comments : Bool} {mode : Mode} (hmode : mode.IgnoresBlanks comments) {w : Text}
  (hw : Text.AllBlank w) (t : Text)

include hmode hw

theorem after_blanks : mode.after comments (w ++ t) = mode.after comments t := by
  induction w with
  | nil => rfl
  | cons c w ih =>
    obtain ⟨hc, hw⟩ := Text.allBlank_cons.1 hw
    rw [List.cons_append, after_cons, hmode c _ hc]
    exact ih hw

theorem braces_blanks : braces comments mode (w ++ t) = braces comments mode t := by
  induction w with
  | nil => rfl
  | cons c w ih =>
    obtain ⟨hc, hw⟩ := Text.allBlank_cons.1 hw
    rw [List.cons_append, braces_cons, hmode c _ hc, isBrace_eq_false_of_isBlank hc]
    simpa using ih hw

end

/-- There are no braces among blanks, whatever is read. -/
theorem braces_eq_nil_of_allBlank (comments : Bool) (mode : Mode) {w : Text}
    (hw : Text.AllBlank w) : braces comments mode w = [] := by
  induction w generalizing mode with
  | nil => rfl
  | cons c w ih =>
    obtain ⟨hc, hw⟩ := Text.allBlank_cons.1 hw
    rw [braces_cons, isBrace_eq_false_of_isBlank hc, ih _ hw]
    simp

theorem isDelimiterChar_eq_false_of_isBlank {c : Char} (hc : isBlank c = true) :
    isDelimiterChar c = false := by
  simp [isDelimiterChar, ne_of_isBlank hc (d := '-') rfl, ne_of_isBlank hc (d := '=') rfl,
    ne_of_isBlank hc (d := '[') rfl, ne_of_isBlank hc (d := ']') rfl]

/-- Blanks behind a text are read behind it. -/
theorem after_append_blanks (comments : Bool) (mode : Mode) (t : Text) {w : Text}
    (hw : Text.AllBlank w) :
    mode.after comments (t ++ w) = (mode.after comments t).after comments w := by
  cases w with
  | nil => rw [List.append_nil, after_nil]
  | cons b w =>
    have hb := isDelimiterChar_eq_false_of_isBlank (Text.allBlank_cons.1 hw).1
    exact after_append_cons hb comments t w mode

theorem braces_append_blanks (comments : Bool) (mode : Mode) (t : Text) {w : Text}
    (hw : Text.AllBlank w) : braces comments mode (t ++ w) = braces comments mode t := by
  cases w with
  | nil => rw [List.append_nil]
  | cons b w =>
    have hb := isDelimiterChar_eq_false_of_isBlank (Text.allBlank_cons.1 hw).1
    rw [braces_append_cons hb, braces_eq_nil_of_allBlank _ _ hw, List.append_nil]

end LuaAccessors.Lexis
