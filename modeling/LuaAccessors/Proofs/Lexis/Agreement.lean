import Mathlib.Data.List.Forall2
import LuaAccessors.Proofs.Lexis.Mode

/-!
# Scanned lines agree with the lexer

A scan reads a source line by line and carries over what a line leaves open; the lexer reads the
source as one text. Both see the same lines.

- `Follows`: the machine of modes reads one lexeme as the lexer does;
- `LineReads`, `lex_line`: it reads a whole line as the lexer does, whatever comes behind the line;
- `LineAgrees`: what a scanned line and a lexed line have in common;
- `ScansAs`: a run of the scan beside the lexed lines;
- `scan_agrees_with_lexer`: all lines of a source agree.
-/

namespace LuaAccessors.Lexis

/-! ## §1 Modes and regions -/

/-- The mode in which the machine reads a region. -/
def Region.mode : Region → Mode
  | .code => .code
  | .quoted quote => .quoted quote
  | .lineComment => .lineComment
  | .blockComment level => .blockComment level
  | .longString level => .longString level

/-- The region that a mode is part of. -/
def Mode.region : Mode → Region
  | .code => .code
  | .quoted quote => .quoted quote
  | .escaped quote => .quoted quote
  | .longString level => .longString level
  | .lineComment => .lineComment
  | .blockComment level => .blockComment level
  | .within _ _ next => next.region

@[simp] theorem region_mode (r : Region) : r.mode.region = r := by cases r <;> rfl

/-- What a line leaves open is what its region carries over a line end. -/
theorem mode_carry_eq (mode : Mode) : mode.carry.mode = mode.region.afterLineEnd.mode := by
  induction mode with
  | within left role next ih => exact ih
  | _ => rfl

/-! ## §2 One lexeme

The machine reads a line character by character, and the lexer reads a whole source lexeme by lexeme. For each
lexeme there is a run of the machine over its characters that gives all of them the same kind.
-/

/-- The braces of a lexeme. -/
def Lexeme.braces (w : Lexeme) : Text := if w.kind = .code then w.text.filter isBrace else []

/-- The machine, in the mode of `p` and in front of the lexeme `w` and the text `more`, reads `w` as
the lexer does. -/
structure Follows (p : Position) (w : Lexeme) (more : Text) : Prop where
  ne_nil : w.text ≠ []
  kind_ne : w.kind ≠ .lineEnd
  kinds_eq : kinds true p.region.mode (w.text ++ more) =
    List.replicate w.text.length w.kind ++ kinds true w.after.region.mode more
  braces_eq : braces true p.region.mode (w.text ++ more) =
    w.braces ++ braces true w.after.region.mode more
  braces_le : w.braces.length ≤ 1
  depth_eq : w.after.depth = w.braces.foldl depthBehind p.depth
  region_eq : (p.region.mode.after true (w.text ++ more)).region =
    (w.after.region.mode.after true more).region

theorem lexeme_append {p : Position} {t : Text} {n : Nat} (h : n ≤ t.length) (u : Text) (kind : Kind)
    (region : Region) : p.lexeme (t ++ u) n kind region = p.lexeme t n kind region := by
  simp [Position.lexeme, List.take_append_of_le_length h]

theorem length_le_of_bracketLevel {t : Text} {level : Nat} (h : bracketLevel t = some level) :
    level + 2 ≤ t.length := by
  simpa using (bracketLevel_eq_some_iff.1 h).length_le

/-! ### The lexer does not look beyond a line -/

section

variable {b : Char} (hb : isLineBreak b = true) (p : Position) (c : Char) (rest u : Text)

include hb

theorem not_delimiter_of_isLineBreak : b ≠ '-' ∧ b ≠ '=' ∧ b ≠ '[' ∧ b ≠ ']' := by
  rcases (by simpa [isLineBreak] using hb : b = '\n' ∨ b = '\r') with rfl | rfl <;> decide

theorem nextInBrackets_append_cons (level : Nat) (kind : Kind) (region : Region) :
    p.nextInBrackets level kind region c (rest ++ b :: u) =
      p.nextInBrackets level kind region c rest := by
  obtain ⟨-, hsign, -, hclose⟩ := not_delimiter_of_isLineBreak hb
  have hiff := closer_isPrefixOf_append_cons hclose hsign level (c :: rest) u
  rw [Bool.eq_iff_iff, List.isPrefixOf_iff_prefix, List.isPrefixOf_iff_prefix] at hiff
  unfold Position.nextInBrackets
  rw [← List.cons_append]
  by_cases h : bracketCloser level <+: c :: rest
  · rw [if_pos h, if_pos (hiff.2 h), lexeme_append (by simpa using h.length_le)]
  · rw [if_neg h, if_neg (fun h' => h (hiff.1 h')), lexeme_append (by simp)]

theorem nextInQuoted_append_cons (quote : Char) :
    p.nextInQuoted quote c (rest ++ b :: u) = p.nextInQuoted quote c rest := by
  unfold Position.nextInQuoted
  -- An escape takes the next character with it, unless that one breaks the line.
  by_cases hc : c = '\\'
  · cases rest with
    | nil => simp [hc, hb, Position.lexeme]
    | cons d rest => by_cases hd : isLineBreak d = true <;> simp [hc, hd, Position.lexeme]
  · rw [if_neg hc, if_neg hc]
    exact lexeme_append (t := c :: rest) (by simp) _ _ _

theorem nextInCode_append_cons : p.nextInCode c (rest ++ b :: u) = p.nextInCode c rest := by
  obtain ⟨hdash, hsign, hopen, -⟩ := not_delimiter_of_isLineBreak hb
  have hlevel : bracketLevel (c :: (rest ++ b :: u)) = bracketLevel (c :: rest) :=
    bracketLevel_append_cons hopen hsign (c :: rest) u
  have htake : ∀ n kind region, n ≤ (c :: rest).length →
      p.lexeme (c :: (rest ++ b :: u)) n kind region = p.lexeme (c :: rest) n kind region :=
    fun n kind region h => lexeme_append (t := c :: rest) h _ _ _
  unfold Position.nextInCode
  rw [hlevel]
  by_cases hc : c = '-' ∧ rest.head? = some '-'
  · -- The second dash stands in front of the line break.
    obtain ⟨rfl, hhead⟩ := hc
    obtain ⟨more, rfl⟩ := List.head?_eq_some_iff.1 hhead
    have hmore : bracketLevel (more ++ b :: u) = bracketLevel more :=
      bracketLevel_append_cons hopen hsign more u
    simp only [List.cons_append, List.head?_cons, and_self, if_true, List.tail_cons, hmore]
    rw [List.cons_append] at htake
    -- Of the text the comment takes either the two dashes or its whole opener.
    cases h : bracketLevel more with
    | none => exact htake _ _ _ (by simp)
    | some level => exact htake _ _ _ (by simpa using length_le_of_bracketLevel h)
  · have hc' : ¬(c = '-' ∧ (rest ++ b :: u).head? = some '-') := by
      rintro ⟨h, hhead⟩
      cases rest with
      | nil => exact hdash (by simpa using hhead)
      | cons d rest => exact hc ⟨h, by simpa using hhead⟩
    rw [if_neg hc, if_neg hc']
    by_cases hq : isQuote c = true
    · rw [if_pos hq, if_pos hq]
      exact htake _ _ _ (by simp)
    · rw [if_neg hq, if_neg hq]
      cases h : bracketLevel (c :: rest) with
      | none => rfl
      | some level => exact htake _ _ _ (length_le_of_bracketLevel h)

theorem next_append_cons (hc : isLineBreak c = false) :
    p.next c (rest ++ b :: u) = p.next c rest := by
  unfold Position.next
  rw [if_neg (by simp [hc]), if_neg (by simp [hc])]
  cases p.region with
  | code => exact nextInCode_append_cons hb p c rest u
  | quoted quote => exact nextInQuoted_append_cons hb p c rest u quote
  | lineComment => exact lexeme_append (t := c :: rest) (by simp) _ _ _
  | blockComment level => exact nextInBrackets_append_cons hb p c rest u _ _ _
  | longString level => exact nextInBrackets_append_cons hb p c rest u _ _ _

end

/-! ### The machine reads what the lexer reads -/

/-- A lexeme of one character outside code. -/
theorem follows_char {p : Position} {c : Char} {rest : Text} {role : Role} {region : Region}
    (hrole : role ≠ .code) (hstep : p.region.mode.step true c rest = (role, region.mode)) :
    Follows p (p.lexeme (c :: rest) 1 role.kind region) rest := by
  have hkind : role.kind ≠ .code := fun h => hrole (Role.kind_eq_code_iff.1 h)
  constructor
  case ne_nil => simp [Position.lexeme]
  case kind_ne => cases role <;> simp [Position.lexeme, Role.kind]
  case kinds_eq => simp [Position.lexeme, hstep]
  case braces_eq => simp [Position.lexeme, Lexeme.braces, braces, hstep, hrole, hkind]
  case braces_le => simp [Position.lexeme, Lexeme.braces, hkind]
  case depth_eq => simp [Position.lexeme, Lexeme.braces, hkind]
  case region_eq => simp [Position.lexeme, hstep]

/-- A delimiter of more than one character. -/
theorem follows_delimiter {p : Position} {c : Char} {w more : Text} {left : Nat} {role : Role}
    {region : Region} (hw : w.length = left + 1) (hrole : role ≠ .code)
    (hstep : p.region.mode.step true c (w ++ more) = (role, .within left role region.mode)) :
    Follows p (p.lexeme (c :: (w ++ more)) (left + 2) role.kind region) more := by
  have hkind : role.kind ≠ .code := fun h => hrole (Role.kind_eq_code_iff.1 h)
  have htake : (c :: (w ++ more)).take (left + 2) = c :: w := by
    rw [List.take_succ_cons, ← hw, List.take_left]
  constructor
  case ne_nil => simp [Position.lexeme]
  case kind_ne => cases role <;> simp [Position.lexeme, Role.kind]
  -- Behind its first character the machine counts down the rest of the delimiter.
  case kinds_eq =>
    simp only [Position.lexeme, htake, List.cons_append, kinds_cons, hstep,
      kinds_within true role region.mode hw more, List.length_cons, List.replicate_succ]
  case braces_eq =>
    simp only [Position.lexeme, htake, List.cons_append, braces, hstep, hrole, false_and, if_false,
      braces_within true role region.mode hw more hrole, Lexeme.braces, hkind, List.nil_append]
  case braces_le => simp [Position.lexeme, Lexeme.braces, hkind]
  case depth_eq => simp [Position.lexeme, Lexeme.braces, hkind]
  case region_eq =>
    simp only [Position.lexeme, htake, List.cons_append, after_cons, hstep,
      after_within true role region.mode hw more]

/-- A character of code. -/
theorem follows_code {depth : Nat} {c : Char} {rest : Text}
    (hstep : Mode.step true .code c rest = (.code, .code)) :
    Follows ⟨.code, depth⟩ ⟨[c], .code, ⟨.code, depthBehind depth c⟩⟩ rest where
  ne_nil := by simp
  kind_ne := by simp
  kinds_eq := by simp [Region.mode, hstep, Role.kind]
  braces_eq := by
    by_cases hb : isBrace c = true <;> simp [Region.mode, braces, hstep, hb, Lexeme.braces]
  braces_le := List.length_filter_le _ _
  depth_eq := by
    by_cases hb : isBrace c = true
    · simp [Lexeme.braces, hb]
    · simp [Lexeme.braces, hb, depthBehind_of_not_brace (Bool.eq_false_iff.2 hb)]
  region_eq := by simp [Region.mode, hstep]

/-- `Reads p w t`: the lexeme `w` stands at the start of `t`, and the machine follows the lexer over
it. -/
def Reads (p : Position) (w : Lexeme) (t : Text) : Prop := ∃ more, t = w.text ++ more ∧ Follows p w more

theorem reads_char {p : Position} {c : Char} {rest : Text} (role : Role) {region : Region}
    (hrole : role ≠ .code) (hstep : p.region.mode.step true c rest = (role, region.mode)) :
    Reads p (p.lexeme (c :: rest) 1 role.kind region) (c :: rest) :=
  ⟨rest, by simp [Position.lexeme], follows_char hrole hstep⟩

theorem reads_delimiter {p : Position} {c : Char} {t : Text} (left : Nat) (role : Role)
    {region : Region} (ht : ∃ w more, t = w ++ more ∧ w.length = left + 1) (hrole : role ≠ .code)
    (hstep : p.region.mode.step true c t = (role, .within left role region.mode)) :
    Reads p (p.lexeme (c :: t) (left + 2) role.kind region) (c :: t) := by
  obtain ⟨w, more, rfl, hw⟩ := ht
  refine ⟨more, ?_, follows_delimiter hw hrole hstep⟩
  simp only [Position.lexeme, List.take_succ_cons, List.cons_append, ← hw, List.take_left]

theorem nextInCode_reads (depth : Nat) (c : Char) (rest : Text) :
    Reads ⟨.code, depth⟩ (Position.nextInCode ⟨.code, depth⟩ c rest) (c :: rest) := by
  unfold Position.nextInCode
  by_cases hc : c = '-' ∧ rest.head? = some '-'
  · rw [if_pos hc]
    obtain ⟨rfl, hhead⟩ := hc
    obtain ⟨more, rfl⟩ := List.head?_eq_some_iff.1 hhead
    rw [List.tail_cons]
    cases h : bracketLevel more with
    | some level =>
      refine reads_delimiter (level + 2) .comment ?_ (by simp) ?_
      · obtain ⟨v, more', hv, hlen⟩ :=
          exists_of_prefix_cons (c := '-') (t := more) (n := level + 1) (w := '-' :: bracketOpener level)
            (by simp) (List.cons_prefix_cons.2 ⟨rfl, bracketLevel_eq_some_iff.1 h⟩)
        exact ⟨'-' :: v, more', by simp [hv], by simp [hlen]⟩
      · simp [Region.mode, Mode.step, h]
    | none =>
      -- The second dash is read in the mode that the first one has opened.
      refine ⟨more, by simp [Position.lexeme], ?_⟩
      constructor <;>
        simp [Position.lexeme, Region.mode, Mode.step, h, Role.kind, Lexeme.braces, braces,
          List.replicate]
  · rw [if_neg hc]
    by_cases hq : isQuote c = true
    · rw [if_pos hq]
      exact reads_char .delimiter (by simp) (by simp [Region.mode, Mode.step, hc, hq])
    · rw [if_neg hq]
      cases h : bracketLevel (c :: rest) with
      | some level =>
        refine reads_delimiter level .delimiter ?_ (by simp) ?_
        · exact exists_of_prefix_cons (length_bracketOpener level) (bracketLevel_eq_some_iff.1 h)
        · simp [Region.mode, Mode.step, hc, hq, h]
      | none => exact ⟨rest, rfl, follows_code (by simp [Mode.step, hc, hq, h])⟩

theorem nextInQuoted_reads (depth : Nat) (quote c : Char) (rest : Text)
    (h : Unbroken (c :: rest)) :
    Reads ⟨.quoted quote, depth⟩ (Position.nextInQuoted ⟨.quoted quote, depth⟩ quote c rest)
      (c :: rest) := by
  obtain ⟨hc, hrest⟩ := unbroken_cons.1 h
  have hn : c ≠ '\n' := (ne_of_isLineBreak_eq_false hc).1
  unfold Position.nextInQuoted
  by_cases hb : c = '\\'
  · rw [if_pos hb]
    subst hb
    cases rest with
    | nil =>
      -- A backslash at the end of a line leaves the literal open, as the lexer does.
      refine ⟨[], by simp [Position.lexeme], ?_⟩
      constructor <;>
        simp [Position.lexeme, Region.mode, Mode.step, Role.kind, Lexeme.braces, braces, Mode.region]
    | cons d rest =>
      -- The escaped character is content, or the delimiter of a string left open.
      have hd : isLineBreak d = false := (unbroken_cons.1 hrest).1
      refine ⟨rest, by simp [Position.lexeme, hd], ?_⟩
      constructor
      case ne_nil => simp [Position.lexeme, hd]
      case kind_ne => simp [Position.lexeme]
      case kinds_eq =>
        simp only [Position.lexeme, List.head?_cons, Option.any_some, hd, Region.mode]
        by_cases he : d = quote ∧ endsOpen rest = true <;>
          simp [Mode.step, he, Role.kind, List.replicate]
      case braces_eq =>
        simp only [Position.lexeme, List.head?_cons, Option.any_some, hd, Region.mode]
        by_cases he : d = quote ∧ endsOpen rest = true <;>
          simp [braces, Mode.step, he, Lexeme.braces]
      case braces_le => simp [Position.lexeme, Lexeme.braces]
      case depth_eq => simp [Position.lexeme, Lexeme.braces]
      case region_eq => simp [Position.lexeme, hd, Region.mode, Mode.step]
  · rw [if_neg hb]
    by_cases hq : c = quote
    · rw [if_pos hq]
      exact reads_char .delimiter (by simp)
        (by subst hq; simp [Region.mode, Mode.step, hn, hb])
    · rw [if_neg hq]
      exact reads_char .content (by simp) (by simp [Region.mode, Mode.step, hn, hb, hq])

/-- Between long brackets: the closing bracket, or one character of what it closes. -/
theorem nextInBrackets_reads {p : Position} {level : Nat} (closing inside : Role) {c : Char}
    {rest : Text} (hclosing : closing ≠ .code) (hinside : inside ≠ .code)
    (hkind : closing.kind = inside.kind)
    (hstep : p.region.mode.step true c rest =
      if bracketCloser level <+: c :: rest then (closing, .within level closing .code)
      else (inside, p.region.mode)) :
    Reads p (p.nextInBrackets level inside.kind p.region c rest) (c :: rest) := by
  unfold Position.nextInBrackets
  by_cases hcloser : bracketCloser level <+: c :: rest
  · rw [if_pos hcloser] at hstep ⊢
    rw [← hkind]
    exact reads_delimiter level closing
      (exists_of_prefix_cons (length_bracketCloser level) hcloser) hclosing hstep
  · rw [if_neg hcloser] at hstep ⊢
    exact reads_char inside hinside hstep

/-- **One lexeme.** Within a line the machine reads every lexeme as the lexer does. -/
theorem next_reads (p : Position) (c : Char) (rest : Text) (h : Unbroken (c :: rest)) :
    Reads p (p.next c rest) (c :: rest) := by
  have hc : isLineBreak c = false := (unbroken_cons.1 h).1
  obtain ⟨region, depth⟩ := p
  -- The line does not end here, so the region alone decides on the lexeme.
  unfold Position.next
  rw [if_neg (by simp [hc])]
  cases region with
  | code => exact nextInCode_reads depth c rest
  | quoted quote => exact nextInQuoted_reads depth quote c rest h
  | lineComment => exact reads_char .comment (by simp) rfl
  | blockComment level =>
    exact @nextInBrackets_reads ⟨.blockComment level, depth⟩ level .comment .comment c rest (by simp)
      (by simp) rfl (by simp [Region.mode, Mode.step])
  | longString level =>
    exact @nextInBrackets_reads ⟨.longString level, depth⟩ level .delimiter .content c rest (by simp)
      (by simp) rfl (by simp [Region.mode, Mode.step])

/-! ## §3 One line

The runs over the lexemes of a line make one run over the line. A directive is an exception: the scan takes it
as it is, and the lexer finds nothing but a comment on it.
-/

/-- Every lexeme, the first one behind the depth `depth`, moves the depth along its braces, of which
it has at most one. -/
def DepthsFollow (depth : Nat) : List Lexeme → Prop
  | [] => True
  | w :: ws => w.braces.length ≤ 1 ∧ w.after.depth = w.braces.foldl depthBehind depth ∧
      DepthsFollow w.after.depth ws

/-- In a line comment there is nothing but comments, and a comment that a block comment does not end
starts one or goes on to the end of the line. -/
structure CommentStep (region : Region) (w : Lexeme) : Prop where
  within : region = .lineComment → w.kind = .comment ∧ w.after.region = .lineComment
  start : w.kind = .comment → w.after.region = .lineComment ∨
    (∃ level, w.after.region = .blockComment level) ∨ ∃ level, region = .blockComment level

theorem next_commentStep (p : Position) {c : Char} (rest : Text) (hc : isLineBreak c = false) :
    CommentStep p.region (p.next c rest) := by
  obtain ⟨region, depth⟩ := p
  unfold Position.next
  rw [if_neg (by simp [hc])]
  cases region with
  | code =>
    refine ⟨by simp, fun h => ?_⟩
    revert h
    simp only [Position.nextInCode]
    split
    · intro _
      -- A comment starts here, as a line comment or as a block comment.
      cases bracketLevel rest.tail with
      | none => exact .inl rfl
      | some level => exact .inr (.inl ⟨level, rfl⟩)
    · split
      · intro h
        cases h
      · cases bracketLevel (c :: rest) with
        | none => exact fun h => by cases h
        | some level => exact fun h => by cases h
  | quoted quote =>
    refine ⟨by simp, fun h => ?_⟩
    revert h
    simp only [Position.nextInQuoted]
    split <;> exact fun h => by cases h
  -- Only the end of the line ends a line comment.
  | lineComment => exact ⟨fun _ => ⟨rfl, rfl⟩, fun _ => .inl rfl⟩
  | blockComment level => exact ⟨by simp, fun _ => .inr (.inr ⟨level, rfl⟩)⟩
  | longString level =>
    refine ⟨by simp, fun h => ?_⟩
    revert h
    simp only [Position.nextInBrackets]
    split <;> exact fun h => by cases h

/-- Every lexeme, the first one in `region`, follows the comments in front of it. -/
def CommentsFollow (region : Region) : List Lexeme → Prop
  | [] => True
  | w :: ws => CommentStep region w ∧ CommentsFollow w.after.region ws

/-- The lexer reads the line `raw` from `p` to `q` as the lexemes `ws`, and so does the machine. -/
structure LineReads (p : Position) (raw : Text) (ws : List Lexeme) (q : Position) : Prop where
  chars_eq : ws.flatMap Lexeme.chars = raw.zip (kinds true p.region.mode raw)
  braces_eq : braces true p.region.mode raw = ws.flatMap Lexeme.braces
  kind_ne : ∀ w ∈ ws, w.kind ≠ .lineEnd
  stop_eq : (ws.getLast?.map Lexeme.after).getD p = q
  depths : DepthsFollow p.depth ws
  comments : CommentsFollow p.region ws
  depth_eq : q.depth = (braces true p.region.mode raw).foldl depthBehind p.depth
  region_eq : (p.region.mode.after true raw).region = q.region

theorem LineReads.nil (p : Position) : LineReads p [] [] p :=
  ⟨rfl, rfl, by simp, rfl, trivial, trivial, rfl, by simp⟩

/-- A line starts with a lexeme, and goes on behind it. -/
theorem LineReads.cons {p q : Position} {w : Lexeme} {more : Text} {ws : List Lexeme}
    (hw : Follows p w more) (hcomment : CommentStep p.region w) (h : LineReads w.after more ws q) :
    LineReads p (w.text ++ more) (w :: ws) q where
  chars_eq := by
    rw [List.flatMap_cons, h.chars_eq, hw.kinds_eq, List.zip_append (by simp)]
    congr 1
    unfold Lexeme.chars
    induction w.text with
    | nil => rfl
    | cons c t ih => simp [List.replicate_succ, ih]
  braces_eq := by rw [hw.braces_eq, h.braces_eq, List.flatMap_cons]
  kind_ne := by
    intro v hv
    rcases List.mem_cons.1 hv with rfl | hv
    · exact hw.kind_ne
    · exact h.kind_ne v hv
  stop_eq := by
    rw [← h.stop_eq, List.getLast?_cons]
    cases ws.getLast? <;> rfl
  -- Depths and comments are said of each lexeme of the line, so there is one more to say them of.
  depths := ⟨hw.braces_le, hw.depth_eq, h.depths⟩
  comments := ⟨hcomment, h.comments⟩
  depth_eq := by rw [h.depth_eq, hw.braces_eq, List.foldl_append, ← hw.depth_eq]
  region_eq := by rw [hw.region_eq, h.region_eq]

/-- The text `t` starts with a line end, or is empty. -/
def StartsBroken (t : Text) : Prop := ∀ b ∈ t.head?, isLineBreak b = true

theorem LineEnd.startsBroken {e rest : Text} (he : LineEnd e rest) : StartsBroken (e ++ rest) := by
  obtain ⟨c, e', rfl, hc⟩ := he.exists_cons
  intro b hb
  obtain rfl : c = b := by simpa using hb
  exact hc

theorem next_append {tail : Text} (htail : StartsBroken tail) (p : Position) {c : Char}
    (hc : isLineBreak c = false) (rest : Text) : p.next c (rest ++ tail) = p.next c rest := by
  cases tail with
  | nil => rw [List.append_nil]
  | cons b u => exact next_append_cons (htail b rfl) p c rest u hc

/-- **One line.** In front of a line end the lexer reads a line as the machine does, and goes on with
the line end. -/
theorem lex_line {raw tail : Text} (hraw : Unbroken raw) (htail : StartsBroken tail)
    (p : Position) :
    ∃ ws q, lex p (raw ++ tail) = ws ++ lex q tail ∧ LineReads p raw ws q := by
  -- A lexeme may take several characters, so the induction is on the length of the line.
  induction h : raw.length using Nat.strongRecOn generalizing raw p with
  | _ n ih =>
    cases raw with
    | nil => exact ⟨[], p, rfl, .nil p⟩
    | cons c rest =>
      have hc : isLineBreak c = false := (unbroken_cons.1 hraw).1
      obtain ⟨more, hmore, hw⟩ := next_reads p c rest hraw
      have hlength : more.length < n := by
        have hpos := List.length_pos_of_ne_nil hw.ne_nil
        have := congrArg List.length hmore
        rw [List.length_append] at this
        omega
      have hmore_raw : Unbroken more := (unbroken_append.1 (hmore ▸ hraw)).2
      obtain ⟨ws, q, hlex, hreads⟩ := ih more.length hlength hmore_raw (p.next c rest).after rfl
      refine ⟨p.next c rest :: ws, q, ?_, hmore ▸ .cons hw (next_commentStep p rest hc) hreads⟩
      -- The lexer goes on behind the lexeme that it has read.
      have hdrop : (rest ++ tail).drop ((p.next c rest).text.length - 1) = more ++ tail := by
        obtain ⟨d, t, ht⟩ := List.exists_cons_of_ne_nil hw.ne_nil
        rw [ht, List.cons_append] at hmore
        obtain ⟨-, hrest⟩ := List.cons.inj hmore
        rw [ht, hrest, List.length_cons, Nat.add_sub_cancel, List.append_assoc, List.drop_left]
      rw [List.cons_append, lex]
      simp only [next_append htail p hc, hdrop, hlex, List.cons_append]

/-- The lexeme that ends a line. -/
theorem lex_lineEnd {e rest : Text} (he : LineEnd e rest) (p : Position) :
    lex p (e ++ rest) =
      ⟨e, .lineEnd, ⟨p.region.afterLineEnd, p.depth⟩⟩ ::
        lex ⟨p.region.afterLineEnd, p.depth⟩ rest := by
  cases he with
  | feed => simp [lex, Position.next, Position.lexeme, isLineBreak]
  | returnFeed => simp [lex, Position.next, Position.lexeme, isLineBreak]
  | lone h => simp [lex, Position.next, Position.lexeme, isLineBreak, h]

/-! ## §4 All lines

Where a line ends the machine starts anew from what is left open. By induction on the lines it always starts in
the mode that belongs to the region of the lexer.
-/

theorem start_of_cutAtLineEnds {p : Position} {ws : List Lexeme} {line : LexedLine}
    {lines : List LexedLine} (h : cutAtLineEnds p ws = line :: lines) : line.start = p := by
  cases ws with
  | nil => rw [← (List.cons.inj h).1]
  | cons w ws =>
    unfold cutAtLineEnds at h
    split at h
    · rw [← (List.cons.inj h).1]
    · split at h <;> rw [← (List.cons.inj h).1]

/-- Lexemes that end no line stand together in the first line. -/
theorem cutAtLineEnds_append {ws : List Lexeme} (h : ∀ w ∈ ws, w.kind ≠ .lineEnd)
    {p : Position} {more : List Lexeme} {line : LexedLine} {lines : List LexedLine}
    (hmore : cutAtLineEnds ((ws.getLast?.map Lexeme.after).getD p) more = line :: lines) :
    cutAtLineEnds p (ws ++ more) = ⟨p, ws ++ line.lexemes⟩ :: lines := by
  induction ws generalizing p with
  | nil =>
    -- The lines behind depend on the position where the lexemes of this line end.
    have hmore' : cutAtLineEnds p more = line :: lines := hmore
    obtain rfl := start_of_cutAtLineEnds hmore'
    exact hmore'
  | cons w ws ih =>
    have hw : w.kind ≠ .lineEnd := h w List.mem_cons_self
    have hstop : ((w :: ws).getLast?.map Lexeme.after).getD p =
        (ws.getLast?.map Lexeme.after).getD w.after := by
      rw [List.getLast?_cons]
      cases ws.getLast? <;> rfl
    rw [hstop] at hmore
    have hws := ih (fun v hv => h v (List.mem_cons_of_mem _ hv)) hmore
    rw [List.cons_append, cutAtLineEnds, if_neg hw, hws]
    rfl

/-- The only line of a text without line ends. -/
theorem lexed_last {raw : Text} (hraw : Unbroken raw) (p : Position) :
    ∃ ws q, cutAtLineEnds p (lex p raw) = [⟨p, ws⟩] ∧ LineReads p raw ws q := by
  have htail : StartsBroken [] := by simp [StartsBroken]
  obtain ⟨ws, q, hlex, hreads⟩ := lex_line hraw htail p
  refine ⟨ws, q, ?_, hreads⟩
  have hend : cutAtLineEnds q [] = [⟨q, []⟩] := rfl
  rw [← hreads.stop_eq] at hend
  rw [List.append_nil, lex] at hlex
  rw [hlex, cutAtLineEnds_append hreads.kind_ne hend, List.append_nil]

/-- The first line of a text, and the lines behind its end. -/
theorem lexed_more {raw e rest : Text} (hraw : Unbroken raw) (he : LineEnd e rest) (p : Position) :
    ∃ ws q, cutAtLineEnds p (lex p (raw ++ e ++ rest)) =
        ⟨p, ws⟩ :: cutAtLineEnds ⟨q.region.afterLineEnd, q.depth⟩
          (lex ⟨q.region.afterLineEnd, q.depth⟩ rest) ∧ LineReads p raw ws q := by
  obtain ⟨ws, q, hlex, hreads⟩ := lex_line hraw he.startsBroken p
  refine ⟨ws, q, ?_, hreads⟩
  let p' : Position := ⟨q.region.afterLineEnd, q.depth⟩
  -- Behind the line end the lexer starts anew, in the region that outlasts the line.
  have hend : cutAtLineEnds q (⟨e, .lineEnd, p'⟩ :: lex p' rest) =
      ⟨q, []⟩ :: cutAtLineEnds p' (lex p' rest) := by
    rw [cutAtLineEnds, if_pos rfl]
  rw [← hreads.stop_eq] at hend
  rw [List.append_assoc, hlex, lex_lineEnd he, cutAtLineEnds_append hreads.kind_ne hend,
    List.append_nil]

/-! ## §5 Scanned lines -/

/-- The position that a scan is at between two lines. -/
def ScanState.position (state : ScanState) : Position := ⟨state.carry.mode.region, state.depth⟩

theorem region_carry_mode (carry : Carry) : carry.mode.region.mode = carry.mode := by
  cases carry <;> rfl

theorem carry_ne_nothing (carry : Carry) :
    (carry != .nothing) = carry.mode.region.spansLines := by
  cases carry <;> rfl

/-- What a scanned line and the same line as the lexer reads it have in common. -/
structure LineAgrees (l : LexedLine) (line : ScannedLine) : Prop where
  /-- A directive starts with its mark, and not inside a block comment or a long string. -/
  directive_iff : line.isDirective = true ↔
    l.isContinuation = false ∧ directiveMark <+: l.text.strip
  text_of_directive : line.isDirective = true → line.text = l.text.strip
  text_of_code : line.isDirective = false → line.text = l.code.strip
  depthBefore_eq : line.depthBefore = l.start.depth
  depthAfter_eq : line.depthAfter = l.stop.depth
  isContinuation_eq : line.isContinuation = l.isContinuation
  /-- A directive leaves the depth alone, and the next line starts in the region in which the
  directive does. -/
  directive_neutral : line.isDirective = true →
    l.stop.depth = l.start.depth ∧ l.stop.region.afterLineEnd = l.start.region

/-- A directive is one line comment behind blanks. -/
theorem directive_reads {raw : Text} (h : directiveMark <+: raw.strip) :
    braces true .code raw = [] ∧ Mode.code.after true raw = .lineComment := by
  obtain ⟨b, b', hb, -, hraw⟩ := Text.exists_blanks_strip raw
  obtain ⟨rest, hrest⟩ := h.trans (List.prefix_append raw.strip b')
  rw [hraw, ← hrest, braces_blanks (ignoresBlanks_code true) hb,
    after_blanks (ignoresBlanks_code true) hb]
  exact reads_comment (t := '-' :: '@' :: rest) (bracketLevel_cons_eq_none (by decide) _)

theorem LineReads.text_eq {p q : Position} {raw : Text} {ws : List Lexeme}
    (h : LineReads p raw ws q) : (LexedLine.mk p ws).text = raw := by
  simp only [LexedLine.text, LexedLine.chars, h.chars_eq]
  exact List.map_fst_zip (by simp)

theorem LineReads.code_eq {p q : Position} {raw : Text} {ws : List Lexeme}
    (h : LineReads p raw ws q) :
    (LexedLine.mk p ws).code = withoutComments raw (roles true p.region.mode raw) := by
  simp only [LexedLine.code, LexedLine.kept, LexedLine.chars, h.chars_eq, kinds, withoutComments,
    List.zip_map_right, List.filter_map, List.map_map]
  congr 1
  refine List.filter_congr fun x _ => ?_
  obtain ⟨c, role⟩ := x
  cases role <;> rfl

/-! ### The two kinds of scanned lines -/

/-- A directive is kept whole and leaves the state as it is. -/
theorem scanLine_of_directive {state : ScanState} {raw : Text} (hcarry : state.carry = .nothing)
    (hmark : directiveMark <+: raw.strip) :
    scanLine state raw =
      ({ number := state.lineNumber + 1, text := raw.strip, depthBefore := state.depth,
         depthAfter := state.depth, isDirective := true },
       { state with lineNumber := state.lineNumber + 1 }) := by
  simp [scanLine, hcarry, hmark]

/-- Of any other line the comments are taken away, and the machine reads the whole line. -/
theorem scanLine_of_not_directive {state : ScanState} {raw : Text}
    (h : ¬(state.carry = .nothing ∧ directiveMark <+: raw.strip)) :
    scanLine state raw =
      ({ number := state.lineNumber + 1
         text := (withoutComments raw (roles true state.carry.mode raw)).strip
         depthBefore := state.depth
         depthAfter := depthAfter state.depth raw (roles true state.carry.mode raw)
         isContinuation := state.carry != .nothing },
       { depth := depthAfter state.depth raw (roles true state.carry.mode raw)
         carry := (state.carry.mode.after true raw).carry
         lineNumber := state.lineNumber + 1 }) := by
  have hif : ¬(¬(state.carry != .nothing) = true ∧ directiveMark.isPrefixOf raw.strip = true) := by
    rw [List.isPrefixOf_iff_prefix]
    simpa using h
  simp only [scanLine]
  rw [if_neg hif]

theorem scanLines_cons (state : ScanState) (raw : Text) (raws : List Text) :
    scanLines state (raw :: raws) = ((scanLine state raw).1 :: (scanLines (scanLine state raw).2 raws).1,
      (scanLines (scanLine state raw).2 raws).2) := rfl

section

variable {state : ScanState} {raw : Text} {ws : List Lexeme} {q : Position}
  (h : LineReads state.position raw ws q)

include h

/-- A directive: the machine stays as it is, and the lexer reads a line comment. -/
theorem directive_agrees (hcarry : state.carry = .nothing) (hmark : directiveMark <+: raw.strip) :
    LineAgrees ⟨state.position, ws⟩ (scanLine state raw).1 ∧
      (scanLine state raw).2.position = ⟨q.region.afterLineEnd, q.depth⟩ := by
  have hstop : (LexedLine.mk state.position ws).stop = q := h.stop_eq
  have hregion : state.position.region = .code := by
    simp [ScanState.position, hcarry, Carry.mode, Mode.region]
  obtain ⟨hbraces, hafter⟩ := directive_reads hmark
  have hdepth : q.depth = state.depth := by
    rw [h.depth_eq, hregion, Region.mode, hbraces]
    rfl
  have hq : q.region = .lineComment := by
    rw [← h.region_eq, hregion, Region.mode, hafter]
    rfl
  rw [scanLine_of_directive hcarry hmark]
  constructor
  · constructor
    case directive_iff =>
      simp [h.text_eq, hmark, LexedLine.isContinuation, hregion, Region.spansLines]
    case text_of_directive => exact fun _ => by rw [h.text_eq]
    case text_of_code => exact fun h => by cases h
    case depthBefore_eq => rfl
    case depthAfter_eq => rw [hstop, hdepth]
    case isContinuation_eq => simp [LexedLine.isContinuation, hregion, Region.spansLines]
    case directive_neutral =>
      intro _
      rw [hstop, hdepth, hq, hregion]
      exact ⟨rfl, rfl⟩
  · -- Behind the line comment the next line starts in code, as this one does.
    rw [hq, hdepth]
    exact congrArg (Position.mk · _) hregion

/-- Any other line: the machine and the lexer both read it to its end. -/
theorem code_agrees (hdir : ¬(state.carry = .nothing ∧ directiveMark <+: raw.strip)) :
    LineAgrees ⟨state.position, ws⟩ (scanLine state raw).1 ∧
      (scanLine state raw).2.position = ⟨q.region.afterLineEnd, q.depth⟩ := by
  have hmode : state.position.region.mode = state.carry.mode := region_carry_mode state.carry
  have hstop : (LexedLine.mk state.position ws).stop = q := h.stop_eq
  have hcode := h.code_eq
  rw [hmode] at hcode
  -- Both depths come from the braces in code, and these are the same.
  have hdepth : depthAfter state.depth raw (roles true state.carry.mode raw) = q.depth := by
    rw [depthAfter_eq_foldl, h.depth_eq, hmode]
    rfl
  rw [scanLine_of_not_directive hdir]
  constructor
  · constructor
    case directive_iff =>
      rw [h.text_eq, LexedLine.isContinuation]
      simp only [ScanState.position, ← carry_ne_nothing]
      simpa using hdir
    case text_of_directive => exact fun h => by cases h
    case text_of_code => exact fun _ => by rw [hcode]
    case depthBefore_eq => rfl
    case depthAfter_eq => rw [hstop, hdepth]
    case isContinuation_eq => exact carry_ne_nothing state.carry
    case directive_neutral => exact fun h => by cases h
  · -- What is left open on the line is what the lexer is in, past the line end.
    unfold ScanState.position
    rw [hdepth, mode_carry_eq, region_mode, ← hmode, h.region_eq]

/-- **One line of a scan.** A scanned line agrees with the lexed line, and so do the positions
behind them. -/
theorem scanLine_agrees :
    LineAgrees ⟨state.position, ws⟩ (scanLine state raw).1 ∧
      (scanLine state raw).2.position = ⟨q.region.afterLineEnd, q.depth⟩ := by
  by_cases hdir : state.carry = .nothing ∧ directiveMark <+: raw.strip
  · exact directive_agrees h hdir.1 hdir.2
  · exact code_agrees h hdir

end

/-- `ScansAs state ls lines stop`: a scan from `state` on yields `lines` and ends in `stop`, and the
lexer reads these lines as `ls`. -/
inductive ScansAs : ScanState → List LexedLine → List ScannedLine → ScanState → Prop where
  | nil (state : ScanState) : ScansAs state [] [] state
  | cons {state stop : ScanState} {raw : Text} {ws : List Lexeme} {q : Position}
      {ls : List LexedLine} {lines : List ScannedLine} (hraw : Unbroken raw)
      (h : LineReads state.position raw ws q) (rest : ScansAs (scanLine state raw).2 ls lines stop) :
      ScansAs state (⟨state.position, ws⟩ :: ls) ((scanLine state raw).1 :: lines) stop

/-- Every scan is read by the lexer, from every state on. -/
theorem scansAs_splitLines (source : Text) (state : ScanState) :
    ScansAs state (cutAtLineEnds state.position (lex state.position source))
      (scanLines state (splitLines source)).1 (scanLines state (splitLines source)).2 := by
  -- Scan and lexer both go line by line, and one line leaves them in corresponding states.
  induction source using line_induction generalizing state with
  | last raw hraw =>
    obtain ⟨ws, q, hlexed, hreads⟩ := lexed_last hraw state.position
    rw [hlexed, splitLines_of_unbroken hraw]
    exact .cons hraw hreads (.nil _)
  | more raw e rest hraw he ih =>
    obtain ⟨ws, q, hlexed, hreads⟩ := lexed_more hraw he state.position
    rw [hlexed, splitLines_append_lineEnd hraw he, ← (scanLine_agrees hreads).2]
    exact .cons hraw hreads (ih (scanLine state raw).2)

theorem scansAs_scan (source : Text) :
    ScansAs {} (lexedLines source) (scan source) (scanLines {} (splitLines source)).2 :=
  scansAs_splitLines source {}

theorem ScansAs.agrees {state stop : ScanState} {ls : List LexedLine} {lines : List ScannedLine}
    (h : ScansAs state ls lines stop) : List.Forall₂ LineAgrees ls lines := by
  induction h with
  | nil state => exact .nil
  | cons hraw h rest ih => exact .cons (scanLine_agrees h).1 ih

/-- What a scan does from the middle of its lines on. -/
theorem ScansAs.drop {state stop : ScanState} {ls : List LexedLine} {lines : List ScannedLine}
    (h : ScansAs state ls lines stop) (n : Nat) :
    ∃ state', ScansAs state' (ls.drop n) (lines.drop n) stop := by
  induction n generalizing state ls lines with
  | zero => exact ⟨state, h⟩
  | succ n ih =>
    cases h with
    | nil => exact ⟨stop, .nil stop⟩
    | cons hraw hreads rest => exact ih rest

/-- A line starts at the depth at which the line above it ends. -/
theorem ScansAs.depthBefore_succ {state stop : ScanState} {ls : List LexedLine}
    {lines : List ScannedLine} (h : ScansAs state ls lines stop) {n : Nat} {above line : ScannedLine}
    (habove : lines[n]? = some above) (hline : lines[n + 1]? = some line) :
    line.depthBefore = above.depthAfter := by
  induction h generalizing n with
  | nil state => cases habove
  | cons hraw hreads rest ih =>
    cases n with
    | succ n => exact ih habove hline
    -- Two lines that follow each other: the second starts at the position where the first one ends.
    | zero =>
      cases rest with
      | nil state => cases hline
      | cons hraw' hreads' rest' =>
        obtain ⟨hagrees, hposition⟩ := scanLine_agrees hreads
        cases habove
        cases hline
        have hbefore := (scanLine_agrees hreads').1.depthBefore_eq
        have hafter := hagrees.depthAfter_eq
        rw [LexedLine.stop, hreads.stop_eq] at hafter
        have hdepth := congrArg Position.depth hposition
        rw [hbefore, hafter]
        exact hdepth

/-- The lexed lines are the lines of the source. -/
theorem map_text_cutAtLineEnds (source : Text) (p : Position) :
    (cutAtLineEnds p (lex p source)).map LexedLine.text = splitLines source := by
  induction source using line_induction generalizing p with
  | last raw hraw =>
    obtain ⟨ws, q, hlexed, hreads⟩ := lexed_last hraw p
    rw [hlexed, splitLines_of_unbroken hraw, List.map_singleton, hreads.text_eq]
  | more raw e rest hraw he ih =>
    obtain ⟨ws, q, hlexed, hreads⟩ := lexed_more hraw he p
    rw [hlexed, splitLines_append_lineEnd hraw he, List.map_cons, hreads.text_eq, ih]

/-- **A scan agrees with the lexer.** The lines that a lexer for the whole source reads are the lines
of the source, and every one of them agrees with the scanned line in its place. -/
theorem scan_agrees_with_lexer (source : Text) :
    (lexedLines source).map LexedLine.text = splitLines source ∧
      List.Forall₂ LineAgrees (lexedLines source) (scan source) :=
  ⟨map_text_cutAtLineEnds source {}, (scansAs_scan source).agrees⟩

end LuaAccessors.Lexis
