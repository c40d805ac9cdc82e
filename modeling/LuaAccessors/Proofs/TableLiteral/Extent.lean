import LuaAccessors.Proofs.Declaration
import LuaAccessors.Proofs.TableLiteral.Closing

/-!
# Where a table literal ends

The content of a table literal ends at the brace that closes the table, which is found by counting the
visible braces of all lines from the value on. A scan has counted the braces of the same lines before.
The two counts agree on the line that closes the table.

- `closingLine?_below`: both counts along the lines of a scan;
- `contentFromBrace_take`: the lines that the content depends on;
- `tableContent_of_closesTable`, `tableContent_of_not_closesTable`: the content, said by the place that closes;
- `value_scanLine`: the line of the value, as both counts read it;
- `table_closes_where_depth_reaches_zero`: both counts from the value of an assignment on.
-/

namespace LuaAccessors.TableLiteral

open Lexis

/-! ## §1 The count along lines

The lines are joined by line feeds and masked as one text. The mask of a line depends only on the mode in which
the line starts, so the count can be taken line by line.
-/

/-- On one line only the visible braces count. -/
theorem closingLine?_line (depth : Nat) {m : Marked} (hm : '\n' ∉ m.text) (more : Marked) :
    closingLine? depth (m ++ more) =
      match depthInside? depth (shownBraces m) with
      | none => some 0
      | some depth => closingLine? depth more := by
  -- No character of the line is a line feed, so each of them goes on in the same line or closes the table.
  induction m generalizing depth with
  | nil => rfl
  | cons p rest ih =>
    obtain ⟨c, shown⟩ := p
    have htext : Marked.text ((c, shown) :: rest) = c :: Marked.text rest := rfl
    rw [htext, List.mem_cons, not_or] at hm
    rw [List.cons_append]
    cases countCase depth c shown with
    | lineFeed hc => exact absurd hc.symm hm.1
    | closing _ hcount _ hbraces => rw [hcount, hbraces]
    | inside d _ hcount _ hbraces => rw [hcount, hbraces, ih d hm.2]

/-- The count over a first line goes on behind its line feed. -/
theorem closingLine?_join (carry : Carry) (depth : Nat) {t : Text} (ht : '\n' ∉ t)
    (ts : List Text) :
    closingLine? depth (markedFrom carry.mode.uncommented (Text.join ['\n'] (t :: ts))) =
      match depthInside? depth (braces false carry.mode.uncommented t) with
      | none => some 0
      | some depth =>
        (closingLine? depth (markedFrom (carry.mode.uncommented.after false t).lineFeed
          (Text.join ['\n'] ts))).map (· + 1) := by
  have hshown : shownBraces (markedFrom carry.mode.uncommented t) =
      braces false carry.mode.uncommented t :=
    shownBraces_markedFrom (sound_uncommented_carry carry t) (uncommented_carry carry)
  have hfeed : '\n' ∉ (markedFrom carry.mode.uncommented t).text := by
    rwa [text_markedFrom]
  cases ts with
  | nil =>
    -- Without further lines there is no line feed behind the first one.
    have hline := closingLine?_line depth hfeed []
    rw [List.append_nil, hshown] at hline
    exact hline
  | cons u ts =>
    obtain ⟨shown, hmarked⟩ :=
      markedFrom_append_lineFeed carry.mode.uncommented t (Text.join ['\n'] (u :: ts))
    rw [Text.join_cons_cons, List.singleton_append, hmarked, closingLine?_line depth hfeed, hshown]
    rfl

/-! ## §2 The count along the lines of a scan

A scan knows the depth in front of a line and the region in which the line starts. Behind a gap that a comment
leaves, and behind an escape at the end of a line, the mask may read on in another region than the scan.
-/

/-- Inside a table the count along the code of scanned lines closes the table on the first line on which
the depth reaches zero. -/
theorem closingLine?_below {state stop : ScanState} {ls : List LexedLine}
    {lines : List ScannedLine} (h : ScansAs state ls lines stop) {depth : Nat}
    (hdepth : state.depth = depth + 1) {n : Nat}
    (hbracket : ∀ l ∈ ls.take (n + 1), NoNewBracket l.kept)
    (hescaped : ∀ l ∈ ls.take n, ¬l.EndsEscaped) :
    closingLine? depth (markedFrom state.carry.mode.uncommented
      (Text.join ['\n'] (lines.map ScannedLine.code))) = some n ↔
        ls.findIdx? LexedLine.reachesZero = some n := by
  induction h generalizing depth n with
  | nil state => simp [Text.join, closingLine?]
  | @cons state stop raw ws q ls lines hraw hreads rest ih =>
    have hfollow : DepthsFollow (depth + 1) ws := hdepth ▸ hreads.depths
    obtain ⟨hbraces, hfeed⟩ := reread_scanLine hreads hraw (hbracket _ (by simp))
    have hcode := (unbroken_code_scanLine hreads hraw).not_mem_lineFeed
    rw [List.map_cons, closingLine?_join state.carry depth hcode, hbraces, List.findIdx?_cons,
      reachesZero_eq hfollow]
    cases hinside : depthInside? depth (ws.flatMap Lexeme.braces) with
    | none => simp
    | some d =>
      -- The table stays open on this line, and the next line starts inside it.
      cases n with
      | zero => simp
      | succ n =>
        -- The induction hypothesis speaks of the next line, which is one line feed further on.
        have hclosing := ih (depth_scanLine_inside hreads hdepth hinside) (n := n)
          (fun l hl => hbracket l (by simp [hl])) (fun l hl => hescaped l (by simp [hl]))
        rw [← hfeed (hescaped _ (by simp))] at hclosing
        simpa using hclosing

/-- The lines on which a table stays open, and the line that closes it, start inside the table. -/
theorem insideTable_below {state stop : ScanState} {ls : List LexedLine}
    {lines : List ScannedLine} (h : ScansAs state ls lines stop) {depth : Nat}
    (hdepth : state.depth = depth + 1) {n : Nat}
    (hn : ls.findIdx? LexedLine.reachesZero = some n) :
    ∀ line ∈ lines.take (n + 1), line.insideTable = true := by
  induction h generalizing depth n with
  | nil state => simp
  | @cons state stop raw ws q ls lines hraw hreads rest ih =>
    have hfollow : DepthsFollow (depth + 1) ws := hdepth ▸ hreads.depths
    have hfirst : (scanLine state raw).1.insideTable = true := by
      simp [ScannedLine.insideTable, depthBefore_scanLine, hdepth]
    rw [List.findIdx?_cons, reachesZero_eq hfollow] at hn
    intro line hline
    rw [List.take_succ_cons] at hline
    rcases List.mem_cons.1 hline with rfl | hline
    · exact hfirst
    -- If the line closes the table, none is to be looked at below it.
    cases hinside : depthInside? depth (ws.flatMap Lexeme.braces) with
    | none =>
      obtain rfl : 0 = n := by simpa [hinside] using hn
      simp at hline
    | some d =>
      obtain ⟨k, hk, rfl⟩ : ∃ k, ls.findIdx? LexedLine.reachesZero = some k ∧ k + 1 = n := by
        simpa [hinside] using hn
      exact ih (depth_scanLine_inside hreads hdepth hinside) hk line hline

/-! ## §3 From the value of an assignment on -/

/-- The count from a value on: its first line, and the lines that follow it. -/
theorem tableClosingLine?_eq {v : Text} (hv : '\n' ∉ v) (following : List Text) :
    tableClosingLine? ('{' :: v) following =
      match depthInside? 0 (braces false .code v) with
      | none => some 0
      | some depth =>
        (closingLine? depth (markedFrom (Mode.code.after false v).lineFeed
          (Text.join ['\n'] following))).map (· + 1) := by
  rw [tableClosingLine?, Text.join_cons_of_cons, markedFrom_open]
  exact closingLine?_join .nothing 0 hv following

theorem contentFromBrace_eq (v : Text) (following : List Text) :
    contentFromBrace (marked (Text.join ['\n'] (('{' :: v) :: following))) =
      contentWithin 0 (markedFrom .code (Text.join ['\n'] (v :: following))) := by
  rw [Text.join_cons_of_cons, markedFrom_open]
  rfl

/-- A value in which a table stays open shows more opening than closing braces. -/
theorem isBalanced_eq_false {v : Text} {depth : Nat}
    (h : depthInside? 0 (braces false .code v) = some depth) : isBalanced ('{' :: v) = false := by
  have hcount := count_of_depthInside h
  have hopen : (mask ('{' :: v)).count '{' = (braces false .code v).count '{' + 1 := by
    rw [count_mask rfl, braces_cons, step_code_open]
    simp [Role.kind, isBrace]
  have hclose : (mask ('{' :: v)).count '}' = (braces false .code v).count '}' := by
    rw [count_mask rfl, braces_cons, step_code_open]
    simp [Role.kind, isBrace]
  -- The outer brace opens, and none of those inside closes it.
  have hne : (mask ('{' :: v)).count '{' ≠ (mask ('{' :: v)).count '}' := by omega
  simp [isBalanced, hne]

/-! ### What the content depends on -/

theorem length_le_count_join (t : Text) (ts : List Text) :
    ts.length ≤ (Text.join ['\n'] (t :: ts)).count '\n' := by
  induction ts generalizing t with
  | nil => simp
  | cons u ts ih =>
    have := ih u
    rw [Text.join_cons_cons, List.count_append, List.count_append]
    simp
    omega

/-- Lines behind further lines change nothing of a table that has been closed. -/
theorem contentFromBrace_append {v : Text} {following : List Text}
    (h : (tableClosingLine? ('{' :: v) following).isSome) (more : List Text) :
    contentFromBrace (marked (Text.join ['\n'] (('{' :: v) :: (following ++ more)))) =
      contentFromBrace (marked (Text.join ['\n'] (('{' :: v) :: following))) := by
  rw [contentFromBrace_eq, contentFromBrace_eq]
  cases more with
  | nil => rw [List.append_nil]
  | cons u more =>
    -- The mask of the first lines does not depend on what follows their line feed.
    obtain ⟨shown, hmarked⟩ := markedFrom_append_lineFeed .code (Text.join ['\n'] (v :: following))
      (Text.join ['\n'] (u :: more))
    rw [← List.cons_append, Text.join_append _ (by simp) (by simp), List.singleton_append, hmarked]
    refine contentWithin_append ?_ _
    rwa [tableClosingLine?, Text.join_cons_of_cons, markedFrom_open] at h

/-- A table that closes on line `n` closes within the first `n` lines below its value. -/
theorem tableClosingLine?_take {v : Text} {following : List Text} {n : Nat}
    (h : tableClosingLine? ('{' :: v) following = some n) :
    tableClosingLine? ('{' :: v) (following.take n) = some n := by
  -- If no further line is there, all of them are taken.
  by_cases hn : n < following.length
  · have hdrop : following.drop n ≠ [] := by simpa using hn
    have hsplit := List.take_append_drop n following
    rw [← hsplit, tableClosingLine?, Text.join_cons_of_cons, markedFrom_open, ← List.cons_append,
      Text.join_append _ (by simp) hdrop, List.singleton_append] at h
    obtain ⟨shown, hmarked⟩ := markedFrom_append_lineFeed .code
      (Text.join ['\n'] (v :: following.take n)) (Text.join ['\n'] (following.drop n))
    rw [hmarked] at h
    rw [tableClosingLine?, Text.join_cons_of_cons, markedFrom_open]
    refine closingLine?_of_append h ?_
    have hcount := length_le_count_join v (following.take n)
    rw [List.length_take, Nat.min_eq_left (Nat.le_of_lt hn)] at hcount
    rwa [text_markedFrom]
  · rwa [List.take_of_length_le (by omega)]

/-- **The content of a table** depends on the lines down to the one that closes the table. -/
theorem contentFromBrace_take {v : Text} {following : List Text} {n : Nat}
    (h : tableClosingLine? ('{' :: v) following = some n) :
    contentFromBrace (marked (Text.join ['\n'] (('{' :: v) :: following))) =
      contentFromBrace (marked (Text.join ['\n'] (('{' :: v) :: following.take n))) := by
  have htake := tableClosingLine?_take h
  have happend := @contentFromBrace_append v (following.take n) (by rw [htake]; rfl)
    (following.drop n)
  rwa [List.take_append_drop] at happend

/-! ### The content of a value that stays open -/

section

variable {v : Text} (hopen : isBalanced ('{' :: v) = false) {following : List Text}

include hopen

theorem tableContent_of_open (following : List Text) : tableContent ('{' :: v) following =
    contentFromBrace (marked (Text.join ['\n'] (('{' :: v) :: following))) := by
  rw [tableContent, hopen]
  rfl

/-- The content stands in front of the place that closes the table. -/
theorem tableContent_of_closesTable {place : Nat}
    (h : ClosesTable (Text.join ['\n'] (('{' :: v) :: following)) place) :
    tableContent ('{' :: v) following =
      Text.replaceChar '\n' ' ' (between (Text.join ['\n'] (('{' :: v) :: following)) place) := by
  rw [Text.join_cons_of_cons] at h
  rw [tableContent_of_open hopen, Text.join_cons_of_cons, contentFromBrace_of_closesTable h]

/-- Without such a place the content goes on to the end. -/
theorem tableContent_of_not_closesTable
    (h : ∀ place, ¬ClosesTable (Text.join ['\n'] (('{' :: v) :: following)) place) :
    tableContent ('{' :: v) following =
      Text.replaceChar '\n' ' ' ((Text.join ['\n'] (('{' :: v) :: following)).drop 1) := by
  rw [Text.join_cons_of_cons] at h
  rw [tableContent_of_open hopen, Text.join_cons_of_cons, contentFromBrace_of_open h]
  rfl

/-- Lines below the one with that place have no part in the content. -/
theorem tableContent_take {n : Nat} (h : tableClosingLine? ('{' :: v) following = some n) :
    tableContent ('{' :: v) following = tableContent ('{' :: v) (following.take n) := by
  rw [tableContent_of_open hopen, tableContent_of_open hopen, contentFromBrace_take h]

end

/-! ### The line of the value -/

/-- The braces of a line from which a table is assigned: the table opens first, and the value is read as
the line is. -/
theorem braces_of_assignment {line name v : Text} {isLocal : Bool}
    (h : Declaration.ofLine? line = some (.assignment name ('{' :: v) isLocal))
    (hfeed : '\n' ∉ line) (htrimmed : Text.Trimmed line) :
    '\n' ∉ v ∧ braces false .code line = '{' :: braces false .code v ∧
      Mode.code.after false line = Mode.code.after false v := by
  obtain ⟨w, rfl, hw, -⟩ := exists_of_assignment h hfeed htrimmed
  refine ⟨fun hv => hfeed (by simp [hv]), ?_, ?_⟩
  · rw [braces_plain hw, braces_cons, step_code_open]
    rfl
  · rw [after_plain hw, after_cons, step_code_open]

theorem ofLine?_dash (t : Text) : Declaration.ofLine? ('-' :: t) = none := rfl

/-- A line from which a table is assigned, outside literals and comments, as the count reads it. -/
theorem value_scanLine {state : ScanState} {raw : Text} {ws : List Lexeme} {q : Position}
    (hraw : Unbroken raw) (hreads : LineReads state.position raw ws q)
    (hcarry : state.carry = .nothing) {name v : Text} {isLocal : Bool}
    (hassign : Declaration.ofLine? (scanLine state raw).1.text =
      some (.assignment name ('{' :: v) isLocal))
    (hbracket : NoNewBracket (LexedLine.mk state.position ws).kept) :
    '\n' ∉ v ∧ ws.flatMap Lexeme.braces = '{' :: braces false .code v ∧
      (¬(LexedLine.mk state.position ws).EndsEscaped →
        (Mode.code.after false v).lineFeed = (scanLine state raw).2.carry.mode.uncommented) := by
  have hagrees := (scanLine_agrees hreads).1
  have hdirective : (scanLine state raw).1.isDirective = false := by
    rw [Bool.eq_false_iff]
    intro hdir
    obtain ⟨-, rest, hrest⟩ := hagrees.directive_iff.1 hdir
    -- A directive starts with a minus sign, and no assignment does.
    rw [hagrees.text_of_directive hdir, ← hrest] at hassign
    cases (ofLine?_dash _).symm.trans hassign
  have hcode := code_eq_text hdirective
  have hfeed := (unbroken_code_scanLine hreads hraw).not_mem_lineFeed
  have htrimmed := trimmed_code_scanLine hreads
  obtain ⟨hbraces, hnext⟩ := reread_scanLine hreads hraw hbracket
  rw [hcode] at hfeed htrimmed hbraces hnext
  rw [hcarry] at hbraces hnext
  obtain ⟨hv, hline, hafter⟩ := braces_of_assignment hassign hfeed htrimmed
  refine ⟨hv, ?_, fun hends => ?_⟩
  · rw [← hbraces]
    exact hline
  · rw [← hnext hends, ← hafter]
    rfl

/-! ## §4 Both counts

One count goes along the lines of the scan, which have been lexed once. The other one goes along their joined
code, which is read again.
-/

/-- A table that is open behind its value closes on no line above the next one, and there the count goes on along
the lines of the scan. -/
theorem tableClosingLine?_of_open {state stop : ScanState} {ls : List LexedLine} {lines : List ScannedLine}
    (rest : ScansAs state ls lines stop) {v : Text} {depth : Nat} (hv : '\n' ∉ v)
    (hinside : depthInside? 0 (braces false .code v) = some depth) (hdepth : state.depth = depth + 1)
    (hfeed : (Mode.code.after false v).lineFeed = state.carry.mode.uncommented) {n : Nat}
    (hbracket : ∀ l ∈ ls.take (n + 1), NoNewBracket l.kept) (hescaped : ∀ l ∈ ls.take n, ¬l.EndsEscaped) :
    tableClosingLine? ('{' :: v) (lines.map ScannedLine.code) ≠ some 0 ∧
      (tableClosingLine? ('{' :: v) (lines.map ScannedLine.code) = some (n + 1) ↔
        ls.findIdx? LexedLine.reachesZero = some n) := by
  rw [tableClosingLine?_eq hv, hinside, hfeed, ← closingLine?_below rest hdepth hbracket hescaped]
  simp

/-- **Both counts agree on where a table ends.** A table literal is assigned on line `i` and is still
open at its end. If no gap that a comment leaves makes a long bracket, and no line in front of the
closing one ends in an escape, then the place that closes the table in the value and the lines that follow it
is on the first line below on which the depth of the scan reaches zero. The content is what stands in front of
that place, all lines down to that one start inside the table, and none of the lines behind it has a part in
the content. If no place closes the table, everything behind its first brace is content. -/
theorem table_closes_where_depth_reaches_zero {source : Text} {i : Nat} {opening : LexedLine}
    {line : ScannedLine} {name value : Text} {isLocal : Bool}
    (hopening : (lexedLines source)[i]? = some opening) (hline : (scan source)[i]? = some line)
    (hdepth : line.depthBefore = 0) (hcontinuation : line.isContinuation = false)
    (hassign : Declaration.ofLine? line.text = some (.assignment name value isLocal))
    (hbrace : value.head? = some '{') (hopen : opening.StaysOpen) (n : Nat)
    (hbracket : ∀ l ∈ ((lexedLines source).drop i).take (n + 2), NoNewBracket l.kept)
    (hescaped : ∀ l ∈ ((lexedLines source).drop i).take (n + 1), ¬l.EndsEscaped) :
    let below := (lexedLines source).drop (i + 1)
    let following := (scan source).drop (i + 1)
    let codes := following.map ScannedLine.code
    let joined := Text.join ['\n'] (value :: codes)
    isBalanced value = false ∧
      (∀ place, ClosesTable joined place → (joined.take place).count '\n' ≠ 0) ∧
      ((∃ place, ClosesTable joined place ∧ (joined.take place).count '\n' = n + 1) ↔
        below.findIdx? LexedLine.reachesZero = some n) ∧
      (∀ place, ClosesTable joined place → (joined.take place).count '\n' = n + 1 →
        tableContent value codes = Text.replaceChar '\n' ' ' (between joined place) ∧
        tableContent value codes = tableContent value (codes.take (n + 1)) ∧
        (∀ l ∈ following.take (n + 1), l.insideTable = true) ∧
        ∀ last next, following[n]? = some last → following[n + 1]? = some next →
          last.depthAfter = 0 → next.insideTable = false) ∧
      ((∀ place, ¬ClosesTable joined place) →
        tableContent value codes = Text.replaceChar '\n' ' ' (joined.drop 1)) := by
  intro below following codes joined
  have hcodes : codes = following.map ScannedLine.code := rfl
  have hjoined : joined = Text.join ['\n'] (value :: codes) := rfl
  clear_value joined codes
  subst hjoined hcodes
  obtain ⟨v, rfl⟩ := List.head?_eq_some_iff.1 hbrace
  obtain ⟨state, hscans⟩ := (scansAs_scan source).drop i
  have hls : (lexedLines source).drop i = opening :: below := by
    rw [List.drop_eq_getElem?_toList_append, hopening]
    rfl
  have hlines : (scan source).drop i = line :: following := by
    rw [List.drop_eq_getElem?_toList_append, hline]
    rfl
  rw [hls] at hscans hbracket hescaped
  rw [hlines] at hscans
  -- From here on the line of the value is the first line of a scan.
  generalize below = ls, following = lines at hscans hbracket hescaped ⊢
  cases hscans with
  | @cons _ _ raw ws q ls lines hraw hreads rest =>
    have hagrees := (scanLine_agrees hreads).1
    have hzero : state.depth = 0 := hagrees.depthBefore_eq.symm.trans hdepth
    have hcarry := carry_eq_nothing hcontinuation
    -- The value stays open on its own line, and the next line starts inside the table.
    obtain ⟨hv, hbraces, hfeed⟩ := value_scanLine hraw hreads hcarry hassign (hbracket _ (by simp))
    have hfollow : DepthsFollow 0 ws := hzero ▸ hreads.depths
    obtain ⟨d, hinside⟩ := exists_depthInside_of_staysOpen hfollow hbraces hopen
    have hnext := depth_scanLine_opened hreads hzero hbraces hinside
    obtain ⟨hfirst, hiff⟩ := tableClosingLine?_of_open rest hv hinside hnext (hfeed (hescaped _ (by simp)))
      (n := n) (fun l hl => hbracket l (by simp [hl])) (fun l hl => hescaped l (by simp [hl]))
    have hbalanced := isBalanced_eq_false hinside
    refine ⟨hbalanced, ?_, by rw [← tableClosingLine?_eq_some_iff, hiff], ?_, ?_⟩
    · intro place hplace hnone
      exact hfirst (tableClosingLine?_eq_some_iff.2 ⟨place, hplace, hnone⟩)
    · intro place hplace hcount
      have hn := tableClosingLine?_eq_some_iff.2 ⟨place, hplace, hcount⟩
      refine ⟨tableContent_of_closesTable hbalanced hplace, tableContent_take hbalanced hn,
        insideTable_below rest hnext (hiff.1 hn), fun last next hlast hbehind hend => ?_⟩
      have hbefore := rest.depthBefore_succ hlast hbehind
      simp [ScannedLine.insideTable, hbefore, hend]
    · exact fun hplaces => tableContent_of_not_closesTable hbalanced hplaces

/-- A table that closes on the second line. -/
def twoLineTable : Text := r"t={
a=1}".toList

/-- What stands in front of the brace on the second line is the content. -/
theorem table_closes_on_second_line :
    ∃ place, ClosesTable (Text.join ['\n'] [['{'], r"a=1}".toList]) place ∧
      tableContent ['{'] [r"a=1}".toList] =
        Text.replaceChar '\n' ' ' (between (Text.join ['\n'] [['{'], r"a=1}".toList]) place) := by
  -- The lexemes of the two lines, for the assumptions speak of these.
  have hlexed : lexedLines twoLineTable =
      [⟨⟨.code, 0⟩, [⟨['t'], .code, ⟨.code, 0⟩⟩, ⟨['='], .code, ⟨.code, 0⟩⟩,
        ⟨['{'], .code, ⟨.code, 1⟩⟩]⟩,
       ⟨⟨.code, 1⟩, [⟨['a'], .code, ⟨.code, 1⟩⟩, ⟨['='], .code, ⟨.code, 1⟩⟩,
        ⟨['1'], .code, ⟨.code, 1⟩⟩, ⟨['}'], .code, ⟨.code, 0⟩⟩]⟩] := by
    unfold twoLineTable
    simp [lexedLines, lex, Position.next, Position.nextInCode, Position.lexeme, isLineBreak,
      isQuote, bracketLevel, depthBehind, Region.afterLineEnd, cutAtLineEnds]
  obtain ⟨-, -, hcloses, hcontent, -⟩ := @table_closes_where_depth_reaches_zero twoLineTable 0 _
    { number := 1, text := r"t={".toList, depthBefore := 0, depthAfter := 1 }
    ['t'] ['{'] false (by rw [hlexed]; rfl) (by decide) rfl rfl (by decide) rfl
    ⟨[⟨['t'], .code, ⟨.code, 0⟩⟩, ⟨['='], .code, ⟨.code, 0⟩⟩], _, [], rfl, by decide, by decide,
      by simp⟩ 0
    (by
      rw [hlexed]
      refine fun l hl => noNewBracket_of_not_mem ?_
      revert l
      decide)
    (by
      rw [hlexed]
      rintro l hl ⟨⟨quote, hquote⟩, -⟩
      obtain rfl := List.mem_singleton.1 hl
      cases hquote)
  obtain ⟨place, hplace, hline⟩ := hcloses.2 (by rw [hlexed]; decide)
  exact ⟨place, hplace, (hcontent place hplace hline).1⟩

/-- Every table of the source that stays open on the line of its value closes on the first line below at
whose end the depth is zero. -/
def ClosesAtDepthZero (source : Text) : Prop :=
  ∀ i opening line name value isLocal n,
    (lexedLines source)[i]? = some opening → (scan source)[i]? = some line →
    line.depthBefore = 0 → line.isContinuation = false →
    Declaration.ofLine? line.text = some (.assignment name value isLocal) →
    value.head? = some '{' → opening.StaysOpen →
    ((scan source).drop (i + 1)).findIdx? (·.depthAfter == 0) = some n →
    ∃ place, ClosesTable (Text.join ['\n'] (value :: ((scan source).drop (i + 1)).map ScannedLine.code)) place ∧
      ((Text.join ['\n'] (value :: ((scan source).drop (i + 1)).map ScannedLine.code)).take place).count '\n' =
        n + 1

/-- A line that closes a table and opens another one. -/
def reopenedTable : Text := r"t={
}{
}".toList

/-- A line of a table that ends in an escape inside a quoted string. -/
def escapedLineEnd : Text := r#"t={"\
}"
}"#.toList

/-- A line of a table with a block comment between two brackets. -/
def bracketsAroundComment : Text := r"t={[--[[]][
}".toList

/-- A line may close a table and open another one; an escape may swallow a line feed; and the gap of a
comment may make a long bracket. In all three cases the table closes on another line than
the one at whose end the depth is zero, or not at all. -/
theorem not_closesAtDepthZero :
    ¬ClosesAtDepthZero reopenedTable ∧ ¬ClosesAtDepthZero escapedLineEnd ∧
      ¬ClosesAtDepthZero bracketsAroundComment := by
  -- Each source fulfils all the assumptions, and the line that they name is not the one on which the table closes.
  refine ⟨fun h => ?_, fun h => ?_, fun h => ?_⟩
  · have hlexed : (lexedLines reopenedTable)[0]? =
        some ⟨⟨.code, 0⟩, [⟨['t'], .code, ⟨.code, 0⟩⟩, ⟨['='], .code, ⟨.code, 0⟩⟩,
          ⟨['{'], .code, ⟨.code, 1⟩⟩]⟩ := by
      unfold reopenedTable
      simp [lexedLines, lex, Position.next, Position.nextInCode, Position.lexeme, isLineBreak,
        isQuote, bracketLevel, depthBehind, Region.afterLineEnd, cutAtLineEnds]
    have hclosing := h 0 _ { number := 1, text := r"t={".toList, depthBefore := 0, depthAfter := 1 }
      ['t'] ['{'] false 1 hlexed (by decide) rfl rfl (by decide) rfl
      ⟨[⟨['t'], .code, ⟨.code, 0⟩⟩, ⟨['='], .code, ⟨.code, 0⟩⟩], _, [], rfl, by decide, by decide,
        by simp⟩ (by decide)
    rw [← tableClosingLine?_eq_some_iff] at hclosing
    revert hclosing
    decide
  · have hlexed : (lexedLines escapedLineEnd)[0]? =
        some ⟨⟨.code, 0⟩, [⟨['t'], .code, ⟨.code, 0⟩⟩, ⟨['='], .code, ⟨.code, 0⟩⟩,
          ⟨['{'], .code, ⟨.code, 1⟩⟩, ⟨['"'], .literal, ⟨.quoted '"', 1⟩⟩,
          ⟨['\\'], .literal, ⟨.quoted '"', 1⟩⟩]⟩ := by
      unfold escapedLineEnd
      simp [lexedLines, lex, Position.next, Position.nextInCode, Position.lexeme, isLineBreak,
        isQuote, bracketLevel, depthBehind, Region.afterLineEnd, cutAtLineEnds, Position.nextInQuoted]
    have hclosing := h 0 _
      { number := 1, text := r#"t={"\"#.toList, depthBefore := 0, depthAfter := 1 }
      ['t'] ['{', '"', '\\'] false 0 hlexed (by decide) rfl rfl (by decide) rfl
      ⟨[⟨['t'], .code, ⟨.code, 0⟩⟩, ⟨['='], .code, ⟨.code, 0⟩⟩], _, _, rfl, by decide, by decide,
        by decide⟩ (by decide)
    rw [← tableClosingLine?_eq_some_iff] at hclosing
    revert hclosing
    decide
  · have hlexed : (lexedLines bracketsAroundComment)[0]? =
        some ⟨⟨.code, 0⟩, [⟨['t'], .code, ⟨.code, 0⟩⟩, ⟨['='], .code, ⟨.code, 0⟩⟩,
          ⟨['{'], .code, ⟨.code, 1⟩⟩, ⟨['['], .code, ⟨.code, 1⟩⟩,
          ⟨"--[[".toList, .comment, ⟨.blockComment 0, 1⟩⟩, ⟨"]]".toList, .comment, ⟨.code, 1⟩⟩,
          ⟨['['], .code, ⟨.code, 1⟩⟩]⟩ := by
      unfold bracketsAroundComment
      simp [lexedLines, lex, Position.next, Position.nextInCode, Position.lexeme,
        isLineBreak, isQuote, bracketLevel, depthBehind, Region.afterLineEnd, cutAtLineEnds,
        Position.nextInBrackets, bracketCloser]
    have hclosing := h 0 _
      { number := 1, text := r"t={[[".toList, depthBefore := 0, depthAfter := 1 }
      ['t'] ['{', '[', '['] false 0 hlexed (by decide) rfl rfl (by decide) rfl
      ⟨[⟨['t'], .code, ⟨.code, 0⟩⟩, ⟨['='], .code, ⟨.code, 0⟩⟩], _, _, rfl, by decide, by decide,
        by decide⟩ (by decide)
    rw [← tableClosingLine?_eq_some_iff] at hclosing
    revert hclosing
    decide

end LuaAccessors.TableLiteral
