import LuaAccessors.Extraction
import LuaAccessors.Proofs.Lexis.Reread

/-!
# Layout of a source

How the lines of a source end and how far they are indented is no part of what the source says. Blanks at
the ends of a line leave every mode in which a line can start as it is, and what they add to the code of the
line is trimmed away; so a line is scanned as it is scanned without them, whatever the line above leaves open.

- `flushLines`: a source with its lines trimmed and joined by line feeds;
- `keptText_blanks`, `keptText_append_blanks`: the code of a line with blanks at its ends;
- `scanLine_strip`: one line;
- `parse_flushLines`: all lines, and the schema.
-/

namespace LuaAccessors

open Lexis

/-! ## §1 Trimmed lines -/

/-- The source with blanks at both ends of every line taken away and a line feed between two lines. -/
def flushLines (source : Text) : Text := Text.join ['\n'] ((splitLines source).map Text.strip)

namespace Lexis

/-- The lines of the trimmed source are the lines of the source, trimmed. -/
theorem splitLines_flushLines (source : Text) :
    splitLines (flushLines source) = (splitLines source).map Text.strip := by
  apply splitLines_join
  · simpa using splitLines_ne_nil source
  · intro l hl c hc
    obtain ⟨raw, hraw, rfl⟩ := List.mem_map.1 hl
    exact unbroken_of_mem_splitLines hraw c (Text.mem_of_mem_strip hc)

/-! ## §2 Blanks at the ends of a line -/

/-- Blanks in front of a line are kept or belong to a comment, and the line behind them is read as it is. -/
theorem keptText_blanks {mode : Mode} (hmode : mode.IgnoresBlanks true) {w : Text}
    (hw : Text.AllBlank w) (t : Text) :
    ∃ w', Text.AllBlank w' ∧ keptText mode (w ++ t) = w' ++ keptText mode t := by
  induction w with
  | nil => exact ⟨[], Text.allBlank_nil, rfl⟩
  | cons c w ih =>
    obtain ⟨hc, hw⟩ := Text.allBlank_cons.1 hw
    obtain ⟨w', hw', hkept⟩ := ih hw
    rw [List.cons_append]
    -- A blank leaves the mode as it is. Whether it is kept depends on whether it is in a comment.
    by_cases hcomment : (mode.step true c (w ++ t)).1 = .comment
    · rw [keptText_cons_of_comment hcomment, hmode c _ hc]
      exact ⟨w', hw', hkept⟩
    · rw [keptText_cons hcomment, hmode c _ hc, hkept]
      exact ⟨c :: w', Text.allBlank_cons.2 ⟨hc, hw'⟩, rfl⟩

/-- Blanks behind a line are kept or belong to a comment, and the line in front of them is read as it is. -/
theorem keptText_append_blanks (mode : Mode) (t : Text) {w : Text} (hw : Text.AllBlank w) :
    ∃ w', Text.AllBlank w' ∧ keptText mode (t ++ w) = keptText mode t ++ w' := by
  cases w with
  | nil => exact ⟨[], Text.allBlank_nil, by rw [List.append_nil, List.append_nil]⟩
  | cons b w =>
    -- A blank is part of no delimiter, so it changes no look ahead.
    have hb := isDelimiterChar_eq_false_of_isBlank (Text.allBlank_cons.1 hw).1
    exact ⟨_, fun c hc => hw c (mem_of_mem_keptText hc), keptText_append_cons hb mode t w⟩

/-- Blanks leave open what was open. -/
theorem carry_after_blanks (mode : Mode) {w : Text} (hw : Text.AllBlank w) :
    (mode.after true w).carry = mode.carry := by
  induction w generalizing mode with
  | nil => rfl
  | cons c w ih =>
    obtain ⟨hc, hw⟩ := Text.allBlank_cons.1 hw
    rw [after_cons, ih _ hw]
    cases mode with
    | code => rw [ignoresBlanks_code true c w hc]
    | longString level => rw [ignoresBlanks_longString true level c w hc]
    | blockComment level => rw [ignoresBlanks_blockComment true level c w hc]
    | quoted quote =>
      -- Whatever becomes of a quoted literal, the end of the line ends it.
      simp only [Mode.step]
      repeat' split
      all_goals rfl
    | within left role next => cases left <;> rfl
    | _ => rfl

/-! ## §3 Lines and sources -/

theorem ignoresBlanks_carry_mode (carry : Carry) : carry.mode.IgnoresBlanks true := by
  cases carry with
  | nothing => exact ignoresBlanks_code true
  | longString level => exact ignoresBlanks_longString true level
  | blockComment level => exact ignoresBlanks_blockComment true level

/-- **One line.** A line is scanned as it is without the blanks at its ends, and leaves the same state
behind. -/
theorem scanLine_strip (state : ScanState) (raw : Text) :
    scanLine state raw.strip = scanLine state raw := by
  -- A directive is taken as it stands, any other line piece by piece.
  by_cases hdirective : state.carry = .nothing ∧ directiveMark <+: raw.strip
  · have hmark : directiveMark <+: raw.strip.strip := by
      rw [Text.strip_eq_self (Text.trimmed_strip raw)]
      exact hdirective.2
    rw [scanLine_of_directive hdirective.1 hmark, scanLine_of_directive hdirective.1 hdirective.2,
      Text.strip_eq_self (Text.trimmed_strip raw)]
  · have hmark : ¬(state.carry = .nothing ∧ directiveMark <+: raw.strip.strip) := by
      rwa [Text.strip_eq_self (Text.trimmed_strip raw)]
    obtain ⟨b₁, b₂, hb₁, hb₂, hraw⟩ := Text.exists_blanks_strip raw
    have hblanks := ignoresBlanks_carry_mode state.carry
    -- Blanks in front of the line do not leave the mode that it starts in, and blanks behind it show no brackets.
    have hbraces : braces true state.carry.mode raw = braces true state.carry.mode raw.strip := by
      conv_lhs => rw [hraw, braces_blanks hblanks hb₁, braces_append_blanks _ _ _ hb₂]
    have hcarry : (state.carry.mode.after true raw).carry =
        (state.carry.mode.after true raw.strip).carry := by
      conv_lhs => rw [hraw, after_blanks hblanks hb₁, after_append_blanks _ _ _ hb₂]
      exact carry_after_blanks _ hb₂
    -- The code may keep some of the blanks, but only at its ends.
    have hcode : (keptText state.carry.mode raw).strip =
        (keptText state.carry.mode raw.strip).strip := by
      obtain ⟨w₁, hw₁, hfront⟩ := keptText_blanks hblanks hb₁ (raw.strip ++ b₂)
      obtain ⟨w₂, hw₂, hback⟩ := keptText_append_blanks state.carry.mode raw.strip hb₂
      conv_lhs => rw [hraw, hfront, hback]
      exact Text.strip_blanks_append hw₁ hw₂ _
    rw [scanLine_of_not_directive hmark, scanLine_of_not_directive hdirective]
    simp only [withoutComments_roles, depthAfter_eq_foldl, hbraces, hcarry, hcode]

theorem scanLines_map_strip (state : ScanState) (raws : List Text) :
    scanLines state (raws.map Text.strip) = scanLines state raws := by
  induction raws generalizing state with
  | nil => rfl
  | cons raw raws ih =>
    rw [List.map_cons, scanLines, scanLines]
    simp only [scanLine_strip, ih]

theorem scan_flushLines (source : Text) : scan (flushLines source) = scan source := by
  rw [scan, splitLines_flushLines, scanLines_map_strip, scan]

end Lexis

/-- **The layout of a source does not matter.** With the blanks at the ends of all lines taken away, and a
line feed in place of every line end, the source has the same scanned lines, numbers, depths and flags
included, and the same schema. -/
theorem parse_flushLines (source fileName : Text) :
    scan (flushLines source) = scan source ∧
      parse (flushLines source) fileName = parse source fileName := by
  refine ⟨scan_flushLines source, ?_⟩
  show (Extractor.run { source := .text (flushLines source), fileName }).result =
    (Extractor.run { source := .text source, fileName }).result
  simp only [Extractor.run, scan_flushLines]
  rfl

end LuaAccessors
