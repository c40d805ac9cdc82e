import LuaAccessors.Extraction
import LuaAccessors.Proofs.Lexis.Reread

/-!
# Line comments at the end of a line

Two minus signs behind a line, and whatever stands behind them, are no part of what a source says, as long as
the line ends outside strings and block comments. The blank in front of them ends every look ahead of the
line, so the line is read as before; the comment shows no brace, nothing of it is kept, and the line end closes
it again.

- `appendToLine`, `splitLines_appendToLine`: a source with a text added to one of its lines;
- `Region.isClosed`: neither a string nor a block comment is open;
- `scanLine_append_comment`: one line;
- `parse_appendToLine`: all lines, and the schema.
-/

namespace LuaAccessors.Lexis

/-! ## §1 Adding to a line

The text is added in front of the line end, which may be one character or two. It holds no line end itself, so
the lines are the old ones, but for one.
-/

/-- The source with a text added at the end of its line `n`, counted from zero. All line ends stay. -/
def appendToLine (added : Text) : Nat → Text → Text
  | 0, [] => added
  | 0, c :: rest => if isLineBreak c then added ++ c :: rest else c :: appendToLine added 0 rest
  | _ + 1, [] => []
  | n + 1, '\r' :: '\n' :: rest => '\r' :: '\n' :: appendToLine added n rest
  | n + 1, c :: rest =>
    if isLineBreak c then c :: appendToLine added n rest else c :: appendToLine added (n + 1) rest

section

variable (added : Text) {raw : Text} (hraw : Unbroken raw)

include hraw

/-- The first line ends in front of the first line break. -/
theorem appendToLine_zero {tail : Text} (htail : StartsBroken tail) :
    appendToLine added 0 (raw ++ tail) = raw ++ (added ++ tail) := by
  induction raw with
  | nil =>
    cases tail with
    | nil => simp [appendToLine]
    | cons b u => simp [appendToLine, htail b rfl]
  | cons c raw ih =>
    obtain ⟨hc, hraw⟩ := unbroken_cons.1 hraw
    simp [appendToLine, hc, ih hraw]

/-- Any other line stands behind the first one, if there is any. -/
theorem appendToLine_succ (n : Nat) (tail : Text) :
    appendToLine added (n + 1) (raw ++ tail) = raw ++ appendToLine added (n + 1) tail := by
  induction raw with
  | nil => rfl
  | cons c raw ih =>
    obtain ⟨hc, hraw⟩ := unbroken_cons.1 hraw
    have hreturn : c ≠ '\r' := (ne_of_isLineBreak_eq_false hc).2
    simp [appendToLine, hc, hreturn, ih hraw]

end

theorem appendToLine_lineEnd {e rest : Text} (he : LineEnd e rest) (added : Text) (n : Nat) :
    appendToLine added (n + 1) (e ++ rest) = e ++ appendToLine added n rest := by
  cases he with
  | feed => simp [appendToLine, isLineBreak]
  | returnFeed => simp [appendToLine]
  | lone h =>
    cases rest with
    | nil => simp [appendToLine, isLineBreak]
    | cons d rest =>
      have hd : d ≠ '\n' := fun hd => h (by rw [hd]; rfl)
      simp [appendToLine, isLineBreak, hd]

/-- A text that is added stands in front of a line end, or changes nothing at the start. -/
theorem head?_appendToLine (added : Text) (n : Nat) (t : Text) :
    (appendToLine added n t).head? = (added ++ t).head? ∨ (appendToLine added n t).head? = t.head? := by
  fun_cases appendToLine added n t <;> simp_all

/-- What ends a line still ends it when something is added further down. -/
theorem LineEnd.appendToLine {e rest : Text} (he : LineEnd e rest) {added : Text}
    (hadded : Unbroken added) (n : Nat) : LineEnd e (appendToLine added n rest) := by
  cases he with
  | feed => exact .feed _
  | returnFeed => exact .returnFeed _
  | lone h =>
    -- A line feed behind the carriage return would stand in `rest` already, or in what is added.
    refine .lone fun hfeed => ?_
    rcases head?_appendToLine added n rest with hhead | hhead
    · rw [hhead] at hfeed
      cases added with
      | nil => exact h hfeed
      | cons c added =>
        obtain rfl : c = '\n' := by simpa using hfeed
        exact absurd (unbroken_cons.1 hadded).1 (by decide)
    · exact h (hhead ▸ hfeed)

/-- **The lines of the new source** are the old ones, but for the one that is added to. -/
theorem splitLines_appendToLine {added : Text} (hadded : Unbroken added) (n : Nat) (source : Text) :
    splitLines (appendToLine added n source) = (splitLines source).modify n (· ++ added) := by
  -- The first line is the one that is added to, or it is passed over and the number goes down.
  induction source using line_induction generalizing n with
  | last raw hraw =>
    rw [splitLines_of_unbroken hraw]
    cases n with
    | zero =>
      -- There is no line end to stop at: the end of the source stands for one.
      have hend : StartsBroken [] := by simp [StartsBroken]
      have happend := appendToLine_zero added hraw hend
      rw [List.append_nil, List.append_nil] at happend
      rw [happend, splitLines_of_unbroken (unbroken_append.2 ⟨hraw, hadded⟩)]
      rfl
    | succ n =>
      have happend := appendToLine_succ added hraw n []
      rw [List.append_nil] at happend
      rw [happend, Lexis.appendToLine, List.append_nil, splitLines_of_unbroken hraw,
        List.modify_succ_cons, List.modify_nil]
  | more raw e rest hraw he ih =>
    rw [splitLines_append_lineEnd hraw he, List.append_assoc]
    cases n with
    | zero =>
      rw [appendToLine_zero added hraw he.startsBroken, ← List.append_assoc, ← List.append_assoc,
        splitLines_append_lineEnd (unbroken_append.2 ⟨hraw, hadded⟩) he]
      rfl
    | succ n =>
      rw [appendToLine_succ added hraw, appendToLine_lineEnd he, ← List.append_assoc,
        splitLines_append_lineEnd hraw (he.appendToLine hadded n), ih]
      rfl

/-! ## §2 The comment -/

/-- Neither a string nor a block comment is open. -/
def Region.isClosed : Region → Bool
  | .code => true
  | .lineComment => true
  | _ => false

/-- At the end of a text only code and line comments are closed. -/
theorem mode_of_isClosed {mode : Mode} (hsound : mode.Sound []) (h : mode.region.isClosed = true) :
    mode = .code ∨ mode = .lineComment := by
  cases mode with
  | code => exact .inl rfl
  | lineComment => exact .inr rfl
  | within left role next => exact absurd hsound.length_lt (by simp)
  | _ => cases h

section

variable {mode : Mode} (hmode : mode = .code ∨ mode = .lineComment) {c : Text}
  (hbracket : bracketLevel c = none)

include hmode hbracket

theorem braces_trailingComment : braces true mode (' ' :: '-' :: '-' :: c) = [] := by
  rcases hmode with rfl | rfl
  · rw [braces_cons, step_code_of_isBlank rfl, (reads_comment hbracket).1]
    rfl
  · exact braces_lineComment _ _

theorem after_trailingComment : mode.after true (' ' :: '-' :: '-' :: c) = .lineComment := by
  rcases hmode with rfl | rfl
  · rw [after_cons, step_code_of_isBlank rfl, (reads_comment hbracket).2]
  · exact after_lineComment _ _

/-- At most the blank in front of the comment is kept. -/
theorem allBlank_trailingComment : Text.AllBlank (keptText mode (' ' :: '-' :: '-' :: c)) := by
  rcases hmode with rfl | rfl
  · have hstep : Mode.step true .code ' ' ('-' :: '-' :: c) = (.code, .code) := step_code_of_isBlank rfl _ _
    rw [keptText_cons (by simp [hstep]), hstep, keptText_comment hbracket]
    exact Text.allBlank_cons.2 ⟨rfl, Text.allBlank_nil⟩
  · rw [keptText_lineComment]
    exact Text.allBlank_nil

end

/-- Blanks at the end of a line do not matter for whether it is a directive. -/
theorem directiveMark_strip_iff (t : Text) :
    directiveMark <+: t.strip ↔ directiveMark <+: t.dropWhile isBlank := by
  obtain ⟨b, hblank, hb⟩ := Text.exists_strip_append t
  rw [hb]
  -- What is trimmed at the end are blanks, and the mark has none in it.
  cases b with
  | nil => rw [List.append_nil]
  | cons d b =>
    have hd : d ∉ directiveMark := by
      intro hmem
      have hnone : ∀ e ∈ directiveMark, isBlank e = false := by simp [directiveMark, isBlank]
      exact absurd (Text.allBlank_cons.1 hblank).1 (by simp [hnone d hmem])
    exact (prefix_append_cons_iff hd _ _).symm

/-- A comment that does not start with a third minus sign makes no directive of a line. -/
theorem directive_of_append_comment {raw c : Text} (hdash : c.head? ≠ some '-')
    (h : directiveMark <+: (raw ++ ' ' :: '-' :: '-' :: c).strip) : directiveMark <+: raw.strip := by
  rw [directiveMark_strip_iff, List.dropWhile_append] at h
  rw [directiveMark_strip_iff]
  split at h
  · -- The line is blank, so the comment stands alone.
    have hcomment : directiveMark <+: '-' :: '-' :: c := h
    obtain ⟨rest, hrest⟩ := hcomment
    have hc : c = '-' :: '@' :: rest := by simpa [directiveMark] using hrest.symm
    exact absurd (by rw [hc]; rfl) hdash
  · exact (prefix_append_cons_iff (by decide) _ _).1 h

/-! ## §3 Lines and sources -/

/-- **One line.** A line that ends outside strings and block comments is scanned as it is with a line comment
behind it, and leaves the same state behind. -/
theorem scanLine_append_comment {state : ScanState} {raw c : Text}
    (hcode : (scanLine state raw).1.isDirective = false)
    (hclosed : (state.carry.mode.after true raw).region.isClosed = true) (hdash : c.head? ≠ some '-')
    (hbracket : bracketLevel c = none) :
    scanLine state (raw ++ ' ' :: '-' :: '-' :: c) = scanLine state raw := by
  have hdirective : ¬(state.carry = .nothing ∧ directiveMark <+: raw.strip) := by
    rintro ⟨hcarry, hmark⟩
    rw [scanLine_of_directive hcarry hmark] at hcode
    cases hcode
  have hdirective' : ¬(state.carry = .nothing ∧ directiveMark <+: (raw ++ ' ' :: '-' :: '-' :: c).strip) :=
    fun h => hdirective ⟨h.1, directive_of_append_comment hdash h.2⟩
  -- The blank ends every look ahead, so the comment is read in the mode that the line ends in.
  have hmode := mode_of_isClosed (sound_after true (sound_carry state.carry raw)) hclosed
  have hbraces : braces true state.carry.mode (raw ++ ' ' :: '-' :: '-' :: c) =
      braces true state.carry.mode raw := by
    rw [braces_append_cons rfl, braces_trailingComment hmode hbracket, List.append_nil]
  have hcarry : (state.carry.mode.after true (raw ++ ' ' :: '-' :: '-' :: c)).carry =
      (state.carry.mode.after true raw).carry := by
    rw [after_append_cons rfl, after_trailingComment hmode hbracket]
    rcases hmode with h | h
    all_goals rw [h]
    rfl
  have hkept : (keptText state.carry.mode (raw ++ ' ' :: '-' :: '-' :: c)).strip =
      (keptText state.carry.mode raw).strip := by
    rw [keptText_append_cons rfl]
    exact Text.strip_blanks_append Text.allBlank_nil (allBlank_trailingComment hmode hbracket) _
  rw [scanLine_of_not_directive hdirective, scanLine_of_not_directive hdirective']
  simp only [withoutComments_roles, depthAfter_eq_foldl, hbraces, hcarry, hkept]

/-- A run of the scan goes over the texts of the lexed lines. -/
theorem ScansAs.scanLines_eq {state stop : ScanState} {ls : List LexedLine} {lines : List ScannedLine}
    (h : ScansAs state ls lines stop) : scanLines state (ls.map LexedLine.text) = (lines, stop) := by
  induction h with
  | nil state => rfl
  | cons hraw hreads rest ih => rw [List.map_cons, hreads.text_eq, scanLines_cons, ih]

/-- A run of the scan is not changed by a line comment behind one of its lines. -/
theorem ScansAs.scanLines_modify {state stop : ScanState} {ls : List LexedLine}
    {lines : List ScannedLine} (h : ScansAs state ls lines stop) {n : Nat} {line : ScannedLine}
    {l : LexedLine} (hline : lines[n]? = some line) (hl : ls[n]? = some l)
    (hcode : line.isDirective = false) (hclosed : l.stop.region.isClosed = true) {c : Text}
    (hdash : c.head? ≠ some '-') (hbracket : bracketLevel c = none) :
    scanLines state ((ls.map LexedLine.text).modify n (· ++ ' ' :: '-' :: '-' :: c)) =
      (lines, stop) := by
  induction h generalizing n with
  | nil state => cases hline
  | @cons state stop raw ws q ls lines hraw hreads rest ih =>
    cases n with
    | zero =>
      cases hline
      cases hl
      -- The machine leaves the line in the region in which the lexer does.
      have hregion : (state.carry.mode.after true raw).region.isClosed = true := by
        have hstop : (LexedLine.mk state.position ws).stop = q := hreads.stop_eq
        rwa [hstop, ← hreads.region_eq, ScanState.position, region_carry_mode] at hclosed
      rw [List.map_cons, List.modify_zero_cons, hreads.text_eq, scanLines_cons,
        scanLine_append_comment hcode hregion hdash hbracket, rest.scanLines_eq]
    | succ n =>
      rw [List.map_cons, List.modify_succ_cons, hreads.text_eq, scanLines_cons, ih hline hl]

end LuaAccessors.Lexis

namespace LuaAccessors

open Lexis

/-- The schema of a source is read off its scanned lines. -/
theorem parse_congr {a b : Text} (h : scan a = scan b) (fileName : Text) :
    parse a fileName = parse b fileName := by
  show (Extractor.run { source := .text a, fileName }).result =
    (Extractor.run { source := .text b, fileName }).result
  simp only [Extractor.run, h]
  rfl

/-- **Line comments are not seen.** A line of a source that is no directive, and at whose end no quoted
string, long string or block comment is open, takes a blank, two minus signs and any further text, as long as
this text has no line break and starts neither with a minus sign nor with a long bracket: all scanned lines,
their depths and flags included, and the schema stay the same. -/
theorem parse_appendToLine {source : Text} {n : Nat} {line : ScannedLine} {l : LexedLine}
    (hline : (scan source)[n]? = some line) (hl : (lexedLines source)[n]? = some l)
    (hcode : line.isDirective = false) (hclosed : l.stop.region.isClosed = true) {c : Text}
    (hunbroken : Unbroken c) (hdash : c.head? ≠ some '-') (hbracket : bracketLevel c = none)
    (fileName : Text) :
    scan (appendToLine (' ' :: '-' :: '-' :: c) n source) = scan source ∧
      parse (appendToLine (' ' :: '-' :: '-' :: c) n source) fileName = parse source fileName := by
  have hadded : Unbroken (' ' :: '-' :: '-' :: c) :=
    unbroken_cons.2 ⟨rfl, unbroken_cons.2 ⟨rfl, unbroken_cons.2 ⟨rfl, hunbroken⟩⟩⟩
  have hscan : scan (appendToLine (' ' :: '-' :: '-' :: c) n source) = scan source := by
    -- Only the one line is scanned anew, and it is scanned as before.
    rw [scan, splitLines_appendToLine hadded, ← (scan_agrees_with_lexer source).1,
      (scansAs_scan source).scanLines_modify hline hl hcode hclosed hdash hbracket]
  exact ⟨hscan, parse_congr hscan fileName⟩

/-- A table of two lines. -/
def shortTable : Text := r"t={
}".toList

/-- The first line of the table, as the lexer reads it. -/
def shortTableOpening : LexedLine :=
  ⟨{}, [⟨['t'], .code, {}⟩, ⟨['='], .code, {}⟩, ⟨['{'], .code, ⟨.code, 1⟩⟩]⟩

/-- A brace, a quote and a long bracket behind the opening brace, in a comment. -/
theorem parse_shortTable_with_comment :
    (scan shortTable)[0]? =
        some { number := 1, text := r"t={".toList, depthBefore := 0, depthAfter := 1 } ∧
      (lexedLines shortTable)[0]? = some shortTableOpening ∧
      shortTableOpening.stop.region.isClosed = true ∧ Unbroken r#" } " [["#.toList ∧
      r#" } " [["#.toList.head? ≠ some '-' ∧ bracketLevel r#" } " [["#.toList = none ∧
      scan (appendToLine (' ' :: '-' :: '-' :: r#" } " [["#.toList) 0 shortTable) = scan shortTable ∧
      parse (appendToLine (' ' :: '-' :: '-' :: r#" } " [["#.toList) 0 shortTable) "t".toList =
        parse shortTable "t".toList := by
  have hline : (scan shortTable)[0]? =
      some { number := 1, text := r"t={".toList, depthBefore := 0, depthAfter := 1 } := by decide
  have hlexed : (lexedLines shortTable)[0]? = some shortTableOpening := by
    simp [shortTable, shortTableOpening, lexedLines, lex, Position.next, Position.nextInCode,
      Position.lexeme, isLineBreak, isQuote, bracketLevel, depthBehind, Region.afterLineEnd, cutAtLineEnds]
  have hunbroken : Unbroken r#" } " [["#.toList := by simp [Unbroken, isLineBreak]
  exact ⟨hline, hlexed, rfl, hunbroken, by decide, by decide,
    parse_appendToLine hline hlexed rfl rfl hunbroken (by decide) (by decide) _⟩

end LuaAccessors
