import LuaAccessors.Proofs.Extraction.Step
import LuaAccessors.Proofs.Lexis.LineComment
import LuaAccessors.Proofs.TableLiteral.Fields

/-!
# Sources that end cleanly

What a source declares does not depend on what is appended to it, and the other way round, if nothing
is left open at the seam: no table, no literal, no comment and no directive.

- `extractMembers_append`: extraction from lines in two parts;
- `tableContent_append`: a table that is closed by the end of the lines does not see further lines;
- `CleanEnd`: sources that leave nothing open;
- `parse_append_lineFeed`: the members of two sources with a line feed between them.
-/

namespace LuaAccessors

open Lexis TableLiteral

/-! ## §1 Numbers of lines -/

/-- A line without its number. -/
def Lexis.ScannedLine.unnumbered (line : ScannedLine) : ScannedLine := { line with number := 0 }

/-- The numbers of lines do not matter to a scan. -/
theorem scanLines_unnumbered {state state' : ScanState} (hdepth : state.depth = state'.depth)
    (hcarry : state.carry = state'.carry) (raws : List Text) :
    (scanLines state raws).1.map ScannedLine.unnumbered =
      (scanLines state' raws).1.map ScannedLine.unnumbered := by
  -- The states may differ in their number only, which the next states do again.
  induction raws generalizing state state' with
  | nil => rfl
  | cons raw raws ih =>
    obtain ⟨depth, carry, n⟩ := state
    obtain ⟨depth', carry', n'⟩ := state'
    obtain rfl : depth = depth' := hdepth
    obtain rfl : carry = carry' := hcarry
    have hline : (scanLine ⟨depth, carry, n⟩ raw).1.unnumbered =
        (scanLine ⟨depth, carry, n'⟩ raw).1.unnumbered ∧
        (scanLine ⟨depth, carry, n⟩ raw).2.depth = (scanLine ⟨depth, carry, n'⟩ raw).2.depth ∧
        (scanLine ⟨depth, carry, n⟩ raw).2.carry = (scanLine ⟨depth, carry, n'⟩ raw).2.carry := by
      simp only [scanLine]
      split <;> exact ⟨rfl, rfl, rfl⟩
    have hrest := ih hline.2.1 hline.2.2
    simp only [scanLines, List.map_cons]
    rw [hline.1, hrest]

theorem declaredMember?_unnumbered (t : Text) (a : Annotations) (following : List ScannedLine) :
    declaredMember? t a (following.map ScannedLine.unnumbered) = declaredMember? t a following := by
  have hcode : (following.map ScannedLine.unnumbered).map ScannedLine.code =
      following.map ScannedLine.code := by
    rw [List.map_map]
    rfl
  unfold declaredMember? buildGlobal?
  rw [hcode]

/-- The numbers of lines do not matter to an extraction. -/
theorem extractMembers_unnumbered (waiting : Collector) (lines : List ScannedLine) :
    extractMembers waiting (lines.map ScannedLine.unnumbered) = extractMembers waiting lines := by
  induction lines generalizing waiting with
  | nil => rfl
  | cons line rest ih =>
    rw [List.map_cons, extractMembers, extractMembers]
    simp only [ih, declaredMember?_unnumbered]
    rfl

/-! ## §2 Lines in two parts -/

theorem scanLines_append (state : ScanState) (xs ys : List Text) :
    (scanLines state (xs ++ ys)).1 =
      (scanLines state xs).1 ++ (scanLines (scanLines state xs).2 ys).1 := by
  induction xs generalizing state with
  | nil => rfl
  | cons raw xs ih => exact congrArg ((scanLine state raw).1 :: ·) (ih (scanLine state raw).2)

/-- What the statement lines declare does not depend on whether `more` follows. -/
def DeclaresAlone (more : List ScannedLine) : List ScannedLine → Prop
  | [] => True
  | line :: rest => (line.isStatement = true → ∀ a : Annotations,
      declaredMember? line.text a (rest ++ more) = declaredMember? line.text a rest) ∧
      DeclaresAlone more rest

/-- The members of lines in two parts are those of the first part and those of the second one. -/
theorem extractMembers_append {more lines : List ScannedLine} (h : DeclaresAlone more lines)
    (waiting : Collector) :
    (extractMembers waiting (lines ++ more)).1 = (extractMembers waiting lines).1 ++
      (extractMembers (extractMembers waiting lines).2 more).1 := by
  induction lines generalizing waiting with
  | nil => rfl
  | cons line rest ih =>
    obtain ⟨hline, hrest⟩ := h
    have ih' := ih hrest
    rw [List.cons_append]
    cases hstatement : line.isStatement with
    | false =>
      rw [extractMembers_of_not_statement hstatement, extractMembers_of_not_statement hstatement]
      exact ih' _
    | true =>
      -- A statement line declares the same member with `more` behind it.
      rw [extractMembers_of_statement hstatement, extractMembers_of_statement hstatement,
        hline hstatement]
      show _ ++ (extractMembers {} (rest ++ more)).1 = _
      rw [ih', List.append_assoc]

/-! ## §3 Waiting directives

What could reach from the first source into the second is a directive that is still waiting. None is if each
directive has a statement below.
-/

/-- Below every directive outside table literals there is a statement line. -/
def DirectivesTaken : List ScannedLine → Prop
  | [] => True
  | line :: rest => (line.isDirective = true → line.insideTable = false →
      ∃ l ∈ rest, l.isStatement = true) ∧ DirectivesTaken rest

instance : (lines : List ScannedLine) → Decidable (DirectivesTaken lines)
  | [] => isTrue trivial
  | line :: rest =>
    have : Decidable (DirectivesTaken rest) := instDecidableDirectivesTaken rest
    inferInstanceAs (Decidable ((line.isDirective = true → line.insideTable = false →
      ∃ l ∈ rest, l.isStatement = true) ∧ DirectivesTaken rest))

/-- No directive waits behind lines in which all directives are taken. -/
theorem waiting_eq_of_directivesTaken {waiting : Collector} {lines : List ScannedLine}
    (h : DirectivesTaken lines) (hwaiting : waiting = {} ∨ ∃ l ∈ lines, l.isStatement = true) :
    (extractMembers waiting lines).2 = {} := by
  induction lines generalizing waiting with
  | nil =>
    rcases hwaiting with rfl | ⟨l, hl, -⟩
    · rfl
    · cases hl
  | cons line rest ih =>
    obtain ⟨htaken, hrest⟩ := h
    cases hstatement : line.isStatement with
    | true =>
      rw [extractMembers_of_statement hstatement]
      exact ih hrest (.inl rfl)
    | false =>
      -- A line that is no statement leaves the statement below where it is.
      have hbelow : waiting = {} ∨ ∃ l ∈ rest, l.isStatement = true := by
        rcases hwaiting with hempty | ⟨l, hl, hl'⟩
        · exact .inl hempty
        rcases List.mem_cons.1 hl with rfl | hl
        · rw [hstatement] at hl'
          cases hl'
        · exact .inr ⟨l, hl, hl'⟩
      rw [extractMembers_of_not_statement hstatement]
      apply ih hrest
      -- A directive outside table literals waits, and it is taken by a statement below.
      unfold Collector.passing
      split
      · exact hbelow
      split
      · rename_i hinside hdirective
        have houtside : line.insideTable = false := by
          simp only [Bool.or_eq_true, not_or, Bool.not_eq_true] at hinside
          exact hinside.1
        exact .inr (htaken hdirective houtside)
      · exact hbelow

/-! ## §4 Tables that are closed by the end of the lines

A table reads on over the lines below it. If it is closed in the first source, further lines change nothing.
-/

/-- A table that is open in front of some lines and not behind them is closed on one of them. -/
theorem exists_reachesZero {state stop : ScanState} {ls : List LexedLine}
    {lines : List ScannedLine} (h : ScansAs state ls lines stop) {depth : Nat}
    (hdepth : state.depth = depth + 1) (hstop : stop.depth = 0) :
    ∃ n, ls.findIdx? LexedLine.reachesZero = some n := by
  induction h generalizing depth with
  | nil state =>
    rw [hdepth] at hstop
    cases hstop
  | @cons state stop raw ws q ls lines hraw hreads rest ih =>
    have hfollow : DepthsFollow (depth + 1) ws := hdepth ▸ hreads.depths
    rw [List.findIdx?_cons, reachesZero_eq hfollow]
    -- Either the line closes the table, or the table is open in front of the next one.
    cases hinside : depthInside? depth (ws.flatMap Lexeme.braces) with
    | none => exact ⟨0, rfl⟩
    | some d =>
      obtain ⟨n, hn⟩ := ih (depth_scanLine_inside hreads hdepth hinside) hstop
      exact ⟨n + 1, by simp [hn]⟩

/-- **A table that is closed by the end of the lines** has the same content with further lines below. -/
theorem tableContent_append {state stop : ScanState} {raw : Text} {ws : List Lexeme} {q : Position}
    {ls : List LexedLine} {lines : List ScannedLine} (hraw : Unbroken raw)
    (hreads : LineReads state.position raw ws q)
    (rest : ScansAs (scanLine state raw).2 ls lines stop) (hcarry : state.carry = .nothing)
    (hdepth : state.depth = 0) (hstop : stop.depth = 0)
    (hbracket : ∀ l ∈ ⟨state.position, ws⟩ :: ls, NoNewBracket l.kept)
    (hescaped : ∀ l ∈ ⟨state.position, ws⟩ :: ls, ¬l.EndsEscaped) {name value : Text}
    {isLocal : Bool} (hassign : Declaration.ofLine? (scanLine state raw).1.text =
      some (.assignment name value isLocal)) (hbrace : value.head? = some '{')
    (more : List Text) :
    tableContent value (lines.map ScannedLine.code ++ more) =
      tableContent value (lines.map ScannedLine.code) := by
  obtain ⟨v, rfl⟩ := List.head?_eq_some_iff.1 hbrace
  obtain ⟨hv, hbraces, hfeed⟩ :=
    value_scanLine hraw hreads hcarry hassign (hbracket _ List.mem_cons_self)
  -- The table closes on the line of its value, or by the end of the lines below.
  have hcloses : (tableClosingLine? ('{' :: v) (lines.map ScannedLine.code)).isSome := by
    rw [tableClosingLine?_eq hv]
    cases hinside : depthInside? 0 (braces false .code v) with
    | none => rfl
    | some d =>
      have hnext := depth_scanLine_opened hreads hdepth hbraces hinside
      obtain ⟨n, hn⟩ := exists_reachesZero rest hnext hstop
      have hclosing := (closingLine?_below rest hnext (n := n)
        (fun l hl => hbracket l (List.mem_cons_of_mem _ (List.mem_of_mem_take hl)))
        (fun l hl => hescaped l (List.mem_cons_of_mem _ (List.mem_of_mem_take hl)))).2 hn
      rw [← hfeed (hescaped _ List.mem_cons_self)] at hclosing
      simp only [hclosing]
      rfl
  unfold tableContent
  split
  · rfl
  · exact contentFromBrace_append hcloses more

theorem declaredMember?_append {state stop : ScanState} {raw : Text} {ws : List Lexeme}
    {q : Position} {ls : List LexedLine} {lines : List ScannedLine} (hraw : Unbroken raw)
    (hreads : LineReads state.position raw ws q)
    (rest : ScansAs (scanLine state raw).2 ls lines stop) (hstop : stop.depth = 0)
    (hbracket : ∀ l ∈ ⟨state.position, ws⟩ :: ls, NoNewBracket l.kept)
    (hescaped : ∀ l ∈ ⟨state.position, ws⟩ :: ls, ¬l.EndsEscaped)
    (hstatement : (scanLine state raw).1.isStatement = true) (a : Annotations)
    (more : List ScannedLine) :
    declaredMember? (scanLine state raw).1.text a (lines ++ more) =
      declaredMember? (scanLine state raw).1.text a lines := by
  obtain ⟨hinside, hcontinuation, hdirective, -⟩ := isStatement_iff.1 hstatement
  have hdepth : state.depth = 0 := by
    simpa [ScannedLine.insideTable, depthBefore_scanLine] using hinside
  have hcarry := carry_eq_nothing hcontinuation
  have hcode := code_eq_text hdirective
  unfold declaredMember?
  split
  · rfl
  · rename_i name value isLocal hassign
    have hfeed := (unbroken_code_scanLine hreads hraw).not_mem_lineFeed
    have htrimmed := trimmed_code_scanLine hreads
    rw [hcode] at hfeed htrimmed
    obtain ⟨-, -, -, hvalue⟩ := exists_of_assignment hassign hfeed htrimmed
    -- Only a table looks at the lines below, and it is closed before `more` starts.
    have htable : inferValueType value = .table →
        tableContent value ((lines ++ more).map ScannedLine.code) =
          tableContent value (lines.map ScannedLine.code) := by
      intro hinfer
      rw [List.map_append]
      exact tableContent_append hraw hreads rest hcarry hdepth hstop hbracket hescaped hassign
        (head?_of_inferValueType hvalue hinfer) _
    have hglobal : buildGlobal? name value isLocal a (lines ++ more) =
        buildGlobal? name value isLocal a lines := by
      unfold buildGlobal?
      by_cases hinfer : inferValueType value = .table
      · simp only [parseTable, htable hinfer]
      · simp only [hinfer, and_false, if_false]
    rw [hglobal]
  · rfl

/-- Lines behind which no table is open declare their members alone. -/
theorem declaresAlone {state stop : ScanState} {ls : List LexedLine} {lines : List ScannedLine}
    (h : ScansAs state ls lines stop) (hstop : stop.depth = 0)
    (hbracket : ∀ l ∈ ls, NoNewBracket l.kept) (hescaped : ∀ l ∈ ls, ¬l.EndsEscaped)
    (more : List ScannedLine) : DeclaresAlone more lines := by
  induction h with
  | nil state => trivial
  | cons hraw hreads rest ih =>
    refine ⟨fun hstatement a => ?_, ih hstop (fun l hl => hbracket l (List.mem_cons_of_mem _ hl))
      (fun l hl => hescaped l (List.mem_cons_of_mem _ hl))⟩
    exact declaredMember?_append hraw hreads rest hstop hbracket hescaped hstatement a more

/-! ## §5 The seam -/

/-- A source without carriage returns and block comments that leaves nothing open: no quoted string at
the end of a line, and no table, no long string and no directive at its own end. -/
structure CleanEnd (source : Text) : Prop where
  no_return : '\r' ∉ source
  no_block_comment : ∀ l ∈ lexedLines source, l.NoBlockComment
  no_open_quote : ∀ l ∈ lexedLines source, ∀ quote, l.stop.region ≠ .quoted quote
  depth_zero : (scanLines {} (splitLines source)).2.depth = 0
  no_long_string : ∀ level, (scanLines {} (splitLines source)).2.carry ≠ .longString level
  directives_taken : DirectivesTaken (scan source)

theorem CleanEnd.carry_eq {source : Text} (h : CleanEnd source) :
    (scanLines {} (splitLines source)).2.carry = .nothing := by
  have hblock := ((scansAs_scan source).noNewBracket (by simp) h.no_block_comment).2
  cases hcarry : (scanLines {} (splitLines source)).2.carry with
  | nothing => rfl
  | longString level => exact absurd hcarry (h.no_long_string level)
  | blockComment level => exact absurd hcarry (hblock level)

/-- The members of a source that ends cleanly, and of what is appended to it. -/
theorem extractMembers_append_lineFeed {a : Text} (h : CleanEnd a) (b : Text) :
    (extractMembers {} (scan (a ++ '\n' :: b))).1 =
      (extractMembers {} (scan a)).1 ++ (extractMembers {} (scan b)).1 := by
  have hscans := scansAs_scan a
  have hbracket := (hscans.noNewBracket (by simp) h.no_block_comment).1
  have hescaped : ∀ l ∈ lexedLines a, ¬l.EndsEscaped := by
    rintro l hl ⟨⟨quote, hquote⟩, -⟩
    exact h.no_open_quote l hl quote hquote
  have hlines : scan (a ++ '\n' :: b) =
      scan a ++ (scanLines (scanLines {} (splitLines a)).2 (splitLines b)).1 := by
    unfold scan
    rw [splitLines_append_feed b h.no_return, scanLines_append]
  -- Behind the seam the second source is scanned as on its own, up to the numbers of its lines.
  have hsecond : (scanLines (scanLines {} (splitLines a)).2 (splitLines b)).1.map
      ScannedLine.unnumbered = (scan b).map ScannedLine.unnumbered :=
    scanLines_unnumbered h.depth_zero h.carry_eq (splitLines b)
  have hwaiting := @waiting_eq_of_directivesTaken {} _ h.directives_taken (.inl rfl)
  rw [hlines, extractMembers_append (declaresAlone hscans h.depth_zero hbracket hescaped _),
    hwaiting, ← extractMembers_unnumbered _ (scanLines _ _).1, hsecond, extractMembers_unnumbered]

/-- **Extraction is compositional at clean ends.** The functions and the variables of two sources with
a line feed between them are those of the first source, and then those of the second one. -/
theorem parse_append_lineFeed {a : Text} (h : CleanEnd a) (b fileName : Text) :
    (parse (a ++ '\n' :: b) fileName).functions =
        (parse a fileName).functions ++ (parse b fileName).functions ∧
      (parse (a ++ '\n' :: b) fileName).globals =
        (parse a fileName).globals ++ (parse b fileName).globals := by
  -- All members come in this order, so those of each kind do.
  have hmembers := extractMembers_append_lineFeed h b
  constructor
  · show memberFunctions (extractMembers {} (scan (a ++ '\n' :: b))).1 =
      memberFunctions (extractMembers {} (scan a)).1 ++
        memberFunctions (extractMembers {} (scan b)).1
    rw [hmembers, memberFunctions, List.filterMap_append]
    rfl
  · show memberGlobals (extractMembers {} (scan (a ++ '\n' :: b))).1 =
      memberGlobals (extractMembers {} (scan a)).1 ++ memberGlobals (extractMembers {} (scan b)).1
    rw [hmembers, memberGlobals, List.filterMap_append]
    rfl

/-- A table on two lines. -/
def tableOnTwoLines : Text := r"t={
x=1}".toList

/-- The table and a variable behind it. -/
theorem parse_table_and_number :
    (parse (tableOnTwoLines ++ '\n' :: "u=2".toList) []).globals.map Global.name = [['t'], ['u']] := by
  have hlexed : lexedLines tableOnTwoLines =
      [⟨⟨.code, 0⟩, [⟨['t'], .code, ⟨.code, 0⟩⟩, ⟨['='], .code, ⟨.code, 0⟩⟩,
        ⟨['{'], .code, ⟨.code, 1⟩⟩]⟩,
       ⟨⟨.code, 1⟩, [⟨['x'], .code, ⟨.code, 1⟩⟩, ⟨['='], .code, ⟨.code, 1⟩⟩,
        ⟨['1'], .code, ⟨.code, 1⟩⟩, ⟨['}'], .code, ⟨.code, 0⟩⟩]⟩] := by
    unfold tableOnTwoLines
    simp [lexedLines, lex, Position.next, Position.nextInCode, Position.lexeme, isLineBreak, isQuote,
      bracketLevel, depthBehind, Region.afterLineEnd, cutAtLineEnds]
  have hclean : CleanEnd tableOnTwoLines := by
    constructor
    case no_return => decide
    case no_block_comment => rw [hlexed]; simp [LexedLine.NoBlockComment]
    case no_open_quote => rw [hlexed]; simp [LexedLine.stop]
    case depth_zero => decide
    case no_long_string => exact fun level h => by cases h
    case directives_taken => decide
  have hglobals := (parse_append_lineFeed hclean "u=2".toList []).2
  rw [hglobals]
  rfl

end LuaAccessors
