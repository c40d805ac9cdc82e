import LuaAccessors.Proofs.Lexis.BlockComment

/-!
# Scans of sources with spaces for comments

A scan of the new source finds the same directives on the same lines as a scan of the old one, and the same code
with spaces in it. A directive is kept as it stands: it holds no comment that could be replaced, since it is a line
comment itself. The other way round a line may become a directive by losing the comment in front of it.

- `exists_start`: a lexed line is read from its own start;
- `spaced_of_directive`: a directive stays as it is;
- `ScannedLine.Spaced`, `scan_spacedSource`: the lines of both scans.
-/

namespace LuaAccessors.Lexis

/-! ## §1 Directives stay as they are -/

theorem afterLineEnd_afterLineEnd (r : Region) : r.afterLineEnd.afterLineEnd = r.afterLineEnd := by
  cases r <;> rfl

/-- A lexed line is the first one of the lines that the lexer reads from its start on. -/
theorem exists_start {p : Position} {source : Text} (hp : p.region.afterLineEnd = p.region) {l : LexedLine}
    (hl : l ∈ cutAtLineEnds p (lex p source)) : l.start.region.afterLineEnd = l.start.region ∧
      Unbroken l.text ∧ ∃ tail lines, cutAtLineEnds l.start (lex l.start (l.text ++ tail)) = l :: lines := by
  -- The line is the first one of the source, or one of those behind its first line end.
  induction source using line_induction generalizing p with
  | last raw hraw =>
    obtain ⟨ws, q, hlexed, hreads⟩ := lexed_last hraw p
    rw [hlexed, List.mem_singleton] at hl
    subst hl
    rw [hreads.text_eq]
    exact ⟨hp, hraw, [], [], by rw [List.append_nil, hlexed]⟩
  | more raw e rest hraw he ih =>
    obtain ⟨ws, q, hlexed, hreads⟩ := lexed_more hraw he p
    have hfirst := hlexed
    rw [hlexed] at hl
    rcases List.mem_cons.1 hl with rfl | hl
    · rw [hreads.text_eq]
      rw [List.append_assoc] at hfirst
      exact ⟨hp, hraw, e ++ rest, _, hfirst⟩
    · exact ih (afterLineEnd_afterLineEnd q.region) hl

/-- The lexeme of a character and what follows on its line. -/
theorem exists_cut_cons {p : Position} {c : Char} {rest : Text} {w : Lexeme} (hw : p.next c rest = w)
    (hkind : w.kind ≠ .lineEnd) (htext : w.text = [c]) {ws : List Lexeme} {lines : List LexedLine}
    (hrest : cutAtLineEnds w.after (lex w.after rest) = ⟨w.after, ws⟩ :: lines) :
    cutAtLineEnds p (lex p (c :: rest)) = ⟨p, w :: ws⟩ :: lines := by
  have hlex : lex p (c :: rest) = w :: lex w.after rest := by
    rw [lex, hw, htext]
    rfl
  rw [hlex, cutAtLineEnds, if_neg hkind, hrest]

/-- In a line comment nothing is replaced. -/
theorem exists_lineComment (d : Nat) (t : Text) :
    ∃ ws lines, cutAtLineEnds ⟨.lineComment, d⟩ (lex ⟨.lineComment, d⟩ t) = ⟨⟨.lineComment, d⟩, ws⟩ :: lines ∧
      pieces false .lineComment ws = ws.map .kept := by
  induction t with
  | nil => exact ⟨[], [], by simp [lex, cutAtLineEnds], rfl⟩
  | cons c rest ih =>
    cases hbreak : isLineBreak c with
    -- The line ends here, so no lexeme of it is left.
    | true =>
      obtain ⟨w, n, hw⟩ := next_looksAhead ⟨.lineComment, d⟩ c rest
      have hkind : w.kind = .lineEnd := by
        rw [← hw.read_eq, Position.next, if_pos hbreak]
        rfl
      exact ⟨[], _, by rw [hw.lex_eq, cutAtLineEnds, if_pos hkind], rfl⟩
    | false =>
      obtain ⟨ws, lines, hcut, hpieces⟩ := ih
      have hw : Position.next ⟨.lineComment, d⟩ c rest = ⟨[c], .comment, ⟨.lineComment, d⟩⟩ := by
        simp [Position.next, hbreak, Position.lexeme]
      refine ⟨_, lines, exists_cut_cons hw (by simp) rfl hcut, ?_⟩
      rw [pieces_of_keeps (by simp [Lexeme.opensComment]), hpieces]
      rfl

/-- In front of the mark of a directive nothing is replaced, nor behind it. -/
theorem exists_directive (d : Nat) {b : Text} (hb : Text.AllBlank b) (hbreak : Unbroken b) (t : Text) :
    ∃ ws lines, cutAtLineEnds ⟨.code, d⟩ (lex ⟨.code, d⟩ (b ++ (directiveMark ++ t))) =
        ⟨⟨.code, d⟩, ws⟩ :: lines ∧ pieces false .code ws = ws.map .kept := by
  -- Over the blanks in front of the mark by induction. Each one is a lexeme of code of its own.
  induction b with
  | nil =>
    obtain ⟨ws, lines, hcut, hpieces⟩ := exists_lineComment d ('-' :: '@' :: t)
    have hlex : lex ⟨.code, d⟩ ([] ++ (directiveMark ++ t)) =
        ⟨['-', '-'], .comment, ⟨.lineComment, d⟩⟩ :: lex ⟨.lineComment, d⟩ ('-' :: '@' :: t) := by
      have hlevel : bracketLevel ('-' :: '@' :: t) = none := bracketLevel_cons_eq_none (by decide) _
      have hmark : [] ++ (directiveMark ++ t) = '-' :: '-' :: '-' :: '@' :: t := rfl
      rw [hmark, lex]
      simp [Position.next, Position.nextInCode, Position.lexeme, isLineBreak, hlevel]
    refine ⟨_, lines, by rw [hlex, cutAtLineEnds, if_neg (by simp), hcut], ?_⟩
    rw [pieces_of_keeps (by simp [Lexeme.opensComment, Region.isBlockComment]), hpieces]
    rfl
  | cons c b ih =>
    obtain ⟨hc, hb⟩ := Text.allBlank_cons.1 hb
    obtain ⟨hcbreak, hbreak⟩ := unbroken_cons.1 hbreak
    obtain ⟨ws, lines, hcut, hpieces⟩ := ih hb hbreak
    have hdash : c ≠ '-' := ne_of_isBlank hc rfl
    have hquote : isQuote c = false := by
      rw [Bool.eq_false_iff]
      intro hquote
      rw [isBlank_eq_false_of_isQuote hquote] at hc
      cases hc
    have hlevel : ∀ u, bracketLevel (c :: u) = none := bracketLevel_cons_eq_none (ne_of_isBlank hc rfl)
    have hdepth : depthBehind d c = d := depthBehind_of_not_brace (isBrace_eq_false_of_isBlank hc) d
    have hw : ∀ u, Position.next ⟨.code, d⟩ c u = ⟨[c], .code, ⟨.code, d⟩⟩ := by
      intro u
      simp [Position.next, Position.nextInCode, hcbreak, hdash, hquote, hlevel, hdepth]
    refine ⟨_, lines, exists_cut_cons (hw _) (by simp) rfl hcut, ?_⟩
    rw [pieces_of_keeps (by simp [Lexeme.opensComment]), hpieces]
    rfl

/-- **A directive stays as it is.** -/
theorem spaced_of_directive {source : Text} {l : LexedLine} (hl : l ∈ lexedLines source)
    (hcontinuation : l.isContinuation = false) (hmark : directiveMark <+: l.text.strip) : l.spaced = l := by
  obtain ⟨hstart, hbreak, tail, lines, hcut⟩ := exists_start rfl hl
  -- The line starts in code and consists of blanks, the mark and more.
  have hcode : l.start.region = .code := by
    unfold LexedLine.isContinuation at hcontinuation
    rw [← hstart, Region.afterLineEnd, hcontinuation]
    rfl
  obtain ⟨b, b', hb, -, htext⟩ := Text.exists_blanks_strip l.text
  obtain ⟨t, ht⟩ := hmark
  rw [← ht] at htext
  have hb_break : Unbroken b := (unbroken_append.1 (htext ▸ hbreak)).1
  obtain ⟨⟨region, d⟩, ws⟩ := l
  obtain rfl : region = .code := hcode
  obtain ⟨ws', lines', hcut', hpieces⟩ := exists_directive d hb hb_break (t ++ b' ++ tail)
  rw [htext] at hcut
  simp only [List.append_assoc] at hcut hcut'
  rw [hcut] at hcut'
  obtain rfl : ws = ws' := congrArg LexedLine.lexemes (List.cons.inj hcut').1
  have hkept : (pieces false .code ws).map Piece.lexeme = ws := by
    rw [hpieces, List.map_map]
    exact List.map_id ws
  exact congrArg (LexedLine.mk _) hkept

/-! ## §2 The lines of both scans -/

/-- A scanned line with spaces in its code; a directive is the same. -/
structure ScannedLine.Spaced (line line' : ScannedLine) : Prop where
  isDirective_eq : line.isDirective = line'.isDirective
  isContinuation_eq : line.isContinuation = line'.isContinuation
  insideTable_eq : line.insideTable = line'.insideTable
  text_of_directive : line.isDirective = true → line.text = line'.text
  text_spaced : Lexis.Spaced [] line.text line'.text
  trimmed : Text.Trimmed line'.text
  no_feed : '\n' ∉ line.text

theorem mem_text_of_mem_code {l : LexedLine} {c : Char} (h : c ∈ l.code) : c ∈ l.text := by
  obtain ⟨p, hp, rfl⟩ := List.mem_map.1 h
  exact List.mem_map_of_mem (List.mem_filter.1 hp).1

/-- One line of the new source becomes a directive only if it has been one. -/
def LexedLine.KeepsRole (l : LexedLine) : Prop :=
  l.isContinuation = false → directiveMark <+: l.spaced.text.strip → directiveMark <+: l.text.strip

/-- Spaces for comments are put between parts that are apart. -/
def LexedLine.SeamsApart (l : LexedLine) : Prop := ∀ s ∈ l.seams, Apart s.1 s.2

instance (l : LexedLine) : Decidable l.KeepsRole :=
  inferInstanceAs (Decidable (l.isContinuation = false → directiveMark <+: l.spaced.text.strip →
    directiveMark <+: l.text.strip))

instance (l : LexedLine) : Decidable l.SeamsApart :=
  decidable_of_iff (l.seams.all fun s => decide (Apart s.1 s.2)) (by simp [LexedLine.SeamsApart])

theorem spaced_of_agrees {source : Text} {l : LexedLine} (hl : l ∈ lexedLines source)
    (hseams : l.SeamsApart) (hrole : l.KeepsRole) {line line' : ScannedLine} (h : LineAgrees l line)
    (h' : LineAgrees l.spaced line') : line.Spaced line' := by
  have hbreak : Unbroken l.text := (exists_start rfl hl).2.1
  have hcontinuation : l.spaced.isContinuation = l.isContinuation := rfl
  have hdirective : line.isDirective = line'.isDirective := by
    rw [Bool.eq_iff_iff, h.directive_iff, h'.directive_iff, hcontinuation]
    -- What is a directive stays one, and the other way round it is asked for.
    refine and_congr_right fun houtside => ⟨fun hmark => ?_, hrole houtside⟩
    rwa [spaced_of_directive hl houtside hmark]
  have hsame : line.isDirective = true → line.text = line'.text := by
    intro hd
    obtain ⟨houtside, hmark⟩ := h.directive_iff.1 hd
    rw [h.text_of_directive hd, h'.text_of_directive (hdirective ▸ hd), spaced_of_directive hl houtside hmark]
  constructor
  case isDirective_eq => exact hdirective
  case isContinuation_eq => rw [h.isContinuation_eq, h'.isContinuation_eq, hcontinuation]
  case insideTable_eq =>
    unfold ScannedLine.insideTable
    rw [h.depthBefore_eq, h'.depthBefore_eq]
    rfl
  case text_of_directive => exact hsame
  case text_spaced =>
    cases hd : line.isDirective with
    | true =>
      rw [hsame hd]
      exact .refl [] _
    | false =>
      rw [h.text_of_code hd, h'.text_of_code (hdirective ▸ hd)]
      exact (LexedLine.spaced_code hseams).strip
  case trimmed =>
    cases hd : line'.isDirective with
    | true =>
      rw [h'.text_of_directive hd]
      exact Text.trimmed_strip _
    | false =>
      rw [h'.text_of_code hd]
      exact Text.trimmed_strip _
  case no_feed =>
    intro hfeed
    apply hbreak.not_mem_lineFeed
    cases hd : line.isDirective with
    | true =>
      rw [h.text_of_directive hd] at hfeed
      exact Text.mem_of_mem_strip hfeed
    | false =>
      rw [h.text_of_code hd] at hfeed
      exact mem_text_of_mem_code (Text.mem_of_mem_strip hfeed)

/-- **The scan of the new source** has the lines of the scan of the old one with spaces in their code. -/
theorem scan_spacedSource {source : Text} (hseams : ∀ l ∈ lexedLines source, l.SeamsApart)
    (hrole : ∀ l ∈ lexedLines source, l.KeepsRole) :
    List.Forall₂ ScannedLine.Spaced (scan source) (scan (spacedSource source)) := by
  have hold := (scansAs_scan source).agrees
  have hnew := (scansAs_scan (spacedSource source)).agrees
  -- The new source is lexed into the old lines with spaces in them, and both scans agree with what is lexed.
  rw [lexedLines_spacedSource, List.forall₂_map_left_iff] at hnew
  have hline : ∀ l ∈ lexedLines source, ∀ line line', LineAgrees l line → LineAgrees l.spaced line' →
      line.Spaced line' := fun l hl line line' => spaced_of_agrees hl (hseams l hl) (hrole l hl)
  generalize lexedLines source = ls at hold hnew hline
  generalize scan source = lines at hold ⊢
  generalize scan (spacedSource source) = lines' at hnew ⊢
  induction hold generalizing lines' with
  | nil =>
    cases hnew
    exact .nil
  | cons h hold ih =>
    cases hnew with
    | cons h' hnew =>
      refine .cons (hline _ List.mem_cons_self _ _ h h') (ih (fun l hl => ?_) _ hnew)
      exact hline l (List.mem_cons_of_mem _ hl)

end LuaAccessors.Lexis
