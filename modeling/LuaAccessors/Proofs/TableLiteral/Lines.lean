import LuaAccessors.Proofs.TableLiteral.Laid

/-!
# The lines of a printed table

Whatever a layout puts between the tokens of a table, every line of the printed text consists of some of
the tokens, of blanks, and possibly of a line comment behind them. A scan takes the comments away and
follows the braces.

- `LaidLine`, `LaidLines`: the shape of one line and of all lines;
- `laidLines_lay`: the lines of a layout have that shape;
- `code_scanLine_laid`, `carry_scanLine_laid`, `depth_scanLine_laid`: a scan of one line.
-/

namespace LuaAccessors.TableLiteral

open Lexis

/-! ## §1 Lines of tokens -/

/-- What may stand at the end of a line. -/
inductive LineRest : Text → Prop where
  | nothing : LineRest []
  | comment {t : Text} (h : bracketLevel t = none) : LineRest ('-' :: '-' :: t)

/-- The line consists of the tokens, of blanks, and possibly of a line comment behind them. -/
def LaidLine (ts : List Token) (raw : Text) : Prop :=
  ∃ w rest, raw = w ++ rest ∧ Laid ts w ∧ LineRest rest ∧ Unbroken raw

/-- The lines of the source consist of the tokens, of blanks and of line comments. -/
def LaidLines (ts : List Token) (source : Text) : Prop :=
  ∃ segments, List.Forall₂ LaidLine segments (splitLines source) ∧ segments.flatten = ts

theorem laidLine_nil : LaidLine [] [] := ⟨[], [], rfl, laid_nil, .nothing, unbroken_nil⟩

theorem LaidLine.append {ts us : List Token} {p raw : Text} (hp : Laid us p) (hbreak : Unbroken p)
    (h : LaidLine ts raw) : LaidLine (us ++ ts) (p ++ raw) := by
  obtain ⟨w, rest, rfl, hw, hrest, hraw⟩ := h
  exact ⟨p ++ w, rest, by simp, hp.append hw, hrest, unbroken_append.2 ⟨hbreak, hraw⟩⟩

theorem LaidLine.eq_nil {ts : List Token} (h : LaidLine ts []) : ts = [] := by
  obtain ⟨w, rest, hraw, hw, -, -⟩ := h
  obtain ⟨rfl, -⟩ := List.append_eq_nil_iff.1 hraw.symm
  cases ts with
  | nil => rfl
  | cons t ts =>
    obtain ⟨b, u, hu, -, -⟩ := hw.exists_cons
    simp [t.ne_nil] at hu

theorem splitLines_append {p t line : Text} {lines : List Text} (hp : Unbroken p)
    (h : splitLines t = line :: lines) : splitLines (p ++ t) = (p ++ line) :: lines := by
  induction p with
  | nil => exact h
  | cons c p ih =>
    obtain ⟨hc, hp⟩ := unbroken_cons.1 hp
    exact splitLines_cons_of_not_break hc (ih hp)

/-- Tokens and blanks in front of a source belong to its first line. -/
theorem LaidLines.exists_first {ts us : List Token} {p source : Text} (hp : Laid us p)
    (hbreak : Unbroken p) (h : LaidLines ts source) :
    ∃ segment segments line lines, splitLines (p ++ source) = line :: lines ∧
      LaidLine (us ++ segment) line ∧ List.Forall₂ LaidLine segments lines ∧
        segment ++ segments.flatten = ts := by
  obtain ⟨segments, hlines, rfl⟩ := h
  obtain ⟨line, lines, hsplit⟩ := List.exists_cons_of_ne_nil (splitLines_ne_nil source)
  rw [hsplit] at hlines
  cases hlines with
  | @cons segment _ segments _ hline hlines =>
    exact ⟨segment, segments, p ++ line, lines, splitLines_append hbreak hsplit,
      hline.append hp hbreak, hlines, rfl⟩

theorem LaidLines.append {ts us : List Token} {p source : Text} (hp : Laid us p)
    (hbreak : Unbroken p) (h : LaidLines ts source) : LaidLines (us ++ ts) (p ++ source) := by
  obtain ⟨segment, segments, line, lines, hsplit, hline, hlines, rfl⟩ := h.exists_first hp hbreak
  refine ⟨(us ++ segment) :: segments, ?_, by simp⟩
  rw [hsplit]
  exact .cons hline hlines

/-! ## §2 Lines of a layout -/

/-- A line break ends the first line; two of them may be one line end. -/
theorem splitLines_break {c : Char} (hc : isLineBreak c = true) (rest : Text) :
    ∃ lines, splitLines (c :: rest) = [] :: lines ∧
      (splitLines rest = lines ∨ splitLines rest = [] :: lines) := by
  by_cases hn : c = '\n'
  · subst hn
    exact ⟨_, splitLines_lineEnd (.feed rest), .inl rfl⟩
  have hr : c = '\r' := by simpa [isLineBreak, hn] using hc
  subst hr
  by_cases hrest : rest.head? = some '\n'
  · obtain ⟨rest, rfl⟩ := List.head?_eq_some_iff.1 hrest
    exact ⟨_, splitLines_lineEnd (.returnFeed rest), .inr (splitLines_lineEnd (.feed rest))⟩
  · exact ⟨_, splitLines_lineEnd (.lone hrest), .inl rfl⟩

/-- Behind a line break the tokens are on further lines. -/
theorem LaidLines.exists_break {c : Char} (hc : isLineBreak c = true) {ts : List Token}
    {source : Text} (h : LaidLines ts source) :
    ∃ segments lines, splitLines (c :: source) = [] :: lines ∧
      List.Forall₂ LaidLine segments lines ∧ segments.flatten = ts := by
  obtain ⟨segments, hlines, rfl⟩ := h
  obtain ⟨lines, hsplit, hrest⟩ := splitLines_break hc source
  -- If the two breaks are one line end there is one empty line less.
  rcases hrest with hrest | hrest
  · exact ⟨segments, lines, hsplit, hrest ▸ hlines, rfl⟩
  · rw [hrest] at hlines
    cases hlines with
    | @cons segment _ segments _ hline hlines =>
      obtain rfl := hline.eq_nil
      exact ⟨segments, lines, hsplit, hlines, rfl⟩

/-- A gap belongs to no token. -/
theorem LaidLines.gap {ts : List Token} {source : Text} (h : LaidLines ts source) (item : GapItem) :
    LaidLines ts (item.text ++ source) := by
  cases item with
  | blank c hc =>
    -- A blank stays on its line or ends it.
    cases hbreak : isLineBreak c with
    | false =>
      have hblank : Laid [] [c] := .blanks (Text.allBlank_cons.2 ⟨hc, Text.allBlank_nil⟩)
      exact h.append hblank (unbroken_cons.2 ⟨hbreak, unbroken_nil⟩)
    | true =>
      obtain ⟨segments, lines, hsplit, hlines, hflat⟩ := h.exists_break hbreak
      refine ⟨[] :: segments, ?_, by simpa using hflat⟩
      show List.Forall₂ LaidLine ([] :: segments) (splitLines (c :: source))
      rw [hsplit]
      exact .cons laidLine_nil hlines
  | comment t c ht hlevel hbreak =>
    obtain ⟨segments, lines, hsplit, hlines, hflat⟩ := h.exists_break hbreak
    refine ⟨[] :: segments, ?_, by simpa using hflat⟩
    -- The comment is the rest of a line without tokens.
    have hunbroken : Unbroken ('-' :: '-' :: t) :=
      unbroken_cons.2 ⟨rfl, unbroken_cons.2 ⟨rfl, ht⟩⟩
    have hsource : (GapItem.comment t c ht hlevel hbreak).text ++ source =
        ('-' :: '-' :: t) ++ c :: source := by
      simp [GapItem.text]
    rw [hsource, splitLines_append hunbroken hsplit, List.append_nil]
    exact .cons ⟨[], _, rfl, laid_nil, .comment hlevel, hunbroken⟩ hlines

/-- **The lines of a layout** consist of its tokens, of blanks and of line comments. -/
theorem laidLines_lay (layout : Layout) (n : Nat) (ts : List Token) :
    LaidLines ts (lay layout n ts) := by
  induction ts generalizing n with
  | nil => exact ⟨[[]], .cons laidLine_nil .nil, rfl⟩
  | cons t ts ih =>
    have htoken : Laid [t] t.text := by
      have htext := laid_nil.cons t
      rwa [List.append_nil] at htext
    have hrest := (ih (n + 1)).append htoken t.unbroken
    rw [lay]
    generalize layout n = items
    -- One item of the gap after the other.
    induction items with
    | nil => exact hrest
    | cons item items ih =>
      rw [List.flatMap_cons, List.append_assoc]
      exact ih.gap item

/-! ## §3 Scanned lines -/

theorem LineRest.keptText_eq {rest : Text} (h : LineRest rest) : keptText .code rest = [] := by
  cases h with
  | nothing => rfl
  | comment h => exact keptText_comment h

theorem LineRest.reads {rest : Text} (h : LineRest rest) :
    braces true .code rest = [] ∧ (Mode.code.after true rest).carry = .nothing := by
  cases h with
  | nothing => exact ⟨rfl, rfl⟩
  | comment h =>
    obtain ⟨hbraces, hafter⟩ := reads_comment h
    rw [hafter]
    exact ⟨hbraces, rfl⟩

section

variable {ts : List Token} {raw : Text} (h : LaidLine ts raw) {state : ScanState}
  (hcarry : state.carry = .nothing)

include h

/-- The lexer reads a line of tokens. -/
theorem LaidLine.exists_reads (p : Position) :
    ∃ ws q, LineReads p raw ws q := by
  obtain ⟨w, rest, -, -, -, hraw⟩ := h
  obtain ⟨ws, q, -, hreads⟩ := lexed_last hraw p
  exact ⟨ws, q, hreads⟩

include hcarry

/-- The code of a line of tokens consists of the tokens and of blanks. -/
theorem code_scanLine_laid :
    Laid ts (scanLine state raw).1.code ∧ Text.Trimmed (scanLine state raw).1.code ∧
      Unbroken (scanLine state raw).1.code := by
  obtain ⟨ws, q, hreads⟩ := h.exists_reads state.position
  obtain ⟨w, rest, rfl, hw, hrest, hraw⟩ := h
  refine ⟨?_, trimmed_code_scanLine hreads, unbroken_code_scanLine hreads hraw⟩
  rw [code_scanLine hreads, hcarry]
  show Laid ts (keptText .code (w ++ rest)).strip
  rw [(hw.standalone true).keptText_append, hrest.keptText_eq, List.append_nil, hw.keptText_eq]
  exact hw.strip

/-- A line of tokens leaves nothing open. -/
theorem carry_scanLine_laid : (scanLine state raw).2.carry = .nothing := by
  obtain ⟨ws, q, hreads⟩ := h.exists_reads state.position
  obtain ⟨w, rest, rfl, hw, hrest, -⟩ := h
  have hmode := carry_scanLine hreads
  rw [hcarry, show Carry.nothing.mode = .code from rfl, (hw.standalone true rest).2,
    hrest.reads.2] at hmode
  -- Of all that can be carried over only nothing is read as code.
  cases hnext : (scanLine state (w ++ rest)).2.carry with
  | nothing => rfl
  | _ =>
    rw [hnext] at hmode
    cases hmode

/-- The depth follows the braces among the tokens. -/
theorem depth_scanLine_laid :
    (scanLine state raw).2.depth = (ts.flatMap Token.braces).foldl depthBehind state.depth := by
  obtain ⟨ws, q, hreads⟩ := h.exists_reads state.position
  obtain ⟨w, rest, rfl, hw, hrest, -⟩ := h
  have hmode : state.position.region.mode = .code := by
    rw [show state.position.region = state.carry.mode.region from rfl, region_carry_mode, hcarry]
    rfl
  rw [depth_scanLine hreads, ← hreads.braces_eq, hmode, (hw.standalone true).braces_append,
    hrest.reads.1, List.append_nil, hw.braces_eq]

end

/-- The codes of lines of tokens consist of the tokens and of blanks. -/
theorem codes_scanLines_laid {segments : List (List Token)} {raws : List Text}
    (h : List.Forall₂ LaidLine segments raws) {state : ScanState}
    (hcarry : state.carry = .nothing) :
    List.Forall₂ Laid segments ((scanLines state raws).1.map ScannedLine.code) := by
  induction h generalizing state with
  | nil => exact .nil
  | cons hline _ ih =>
    exact .cons (code_scanLine_laid hline hcarry).1 (ih (carry_scanLine_laid hline hcarry))

end LuaAccessors.TableLiteral
