import LuaAccessors.Proofs.TableLiteral.Matching

/-!
# Tables on one line

A table that is spread over several lines has the content that it has on one line, with a space in place of
every line break. The two are cut out in different ways: braces are counted along the lines, and a text whose
braces balance is cut at its first and its last one. They meet where the brace that closes the table is the last
closing brace to be seen.

- `quotesClosed`: no line ends inside a quoted string, though it may end inside a long one;
- `markedFrom_join_space`: the mask of the joined lines;
- `tableContent_line`: what is cut out of one line;
- `tableContent_joined`: the content and the fields of both tables.
-/

namespace LuaAccessors.Lexis

/-! ## §1 Between two lines -/

/-- A quoted string, as long as it is open. -/
def Region.isQuoted : Region → Bool
  | .quoted _ => true
  | _ => false

/-- Each of the lines ends outside quoted strings, where the first one is read from `mode` on. -/
def quotesClosed (mode : Mode) : List Text → Bool
  | [] => true
  | t :: ts => !(mode.after false t).region.isQuoted && quotesClosed (mode.after false t).lineFeed ts

theorem quotesClosed_cons {mode : Mode} {t : Text} {ts : List Text} :
    quotesClosed mode (t :: ts) = true ↔ (mode.after false t).region.isQuoted = false ∧
      quotesClosed (mode.after false t).lineFeed ts = true := by
  simp [quotesClosed]

/-- Where no quoted string is open, a blank changes no mode, and neither does what follows it. -/
theorem ignoresBlanks_of_closed {mode : Mode} (hsound : mode.Sound [])
    (hclosed : mode.region.isQuoted = false) : mode.IgnoresBlanks false ∧ ∀ t, mode.Sound t := by
  cases mode with
  | code => exact ⟨ignoresBlanks_code false, fun _ => trivial⟩
  | quoted quote => cases hclosed
  | escaped quote => cases hclosed
  | longString level => exact ⟨ignoresBlanks_longString false level, fun _ => trivial⟩
  | lineComment => exact ⟨fun _ _ _ => rfl, fun _ => trivial⟩
  | blockComment level => exact ⟨ignoresBlanks_blockComment false level, fun _ => trivial⟩
  | within left role next => exact absurd hsound.length_lt (by simp)

/-- In front of a character that is part of no delimiter a text is marked as it is on its own, unless it leaves
a quoted string open. -/
theorem markedFrom_append_cons {b : Char} (hb : isDelimiterChar b = false) {mode : Mode} {t : Text}
    (hclosed : (mode.after false t).region.isQuoted = false) (u : Text) :
    markedFrom mode (t ++ b :: u) = markedFrom mode t ++ markedFrom (mode.after false t) (b :: u) := by
  induction t generalizing mode with
  | nil => rfl
  | cons c t ih =>
    have hstep : mode.step false c (t ++ b :: u) = mode.step false c t := by
      by_cases hmode : ∀ quote, mode ≠ .escaped quote
      · exact step_append_cons_of_not_escaped hb false hmode c t u
      · obtain ⟨quote, rfl⟩ : ∃ quote, mode = .escaped quote := by simpa using hmode
        -- An escaped quote is taken for the end of a string at the end of the text only, where it is open.
        cases t with
        | nil => cases hclosed
        | cons d t => rfl
    rw [List.cons_append, markedFrom_cons, hstep, ih hclosed]
    rfl

end LuaAccessors.Lexis

namespace LuaAccessors.TableLiteral

open Lexis

/-! ## §2 The mask of joined lines

Lines may be joined by line feeds or by spaces. Both are shown as blanks, and no quoted literal is open between
two lines, so the masks are equal but for these characters.
-/

/-- A marked text with spaces in place of its line feeds. -/
def spaced (m : Marked) : Marked := m.map (Prod.map feedToSpace feedToSpace)

theorem feedToSpace_of_ne {c : Char} (h : c ≠ '\n') : feedToSpace c = c := if_neg h

theorem text_spaced (m : Marked) : (spaced m).text = Text.replaceChar '\n' ' ' m.text := by
  simp only [spaced, Marked.text, Text.replaceChar, List.map_map]
  rfl

theorem shownBraces_spaced (m : Marked) : shownBraces (spaced m) = shownBraces m := by
  induction m with
  | nil => rfl
  | cons p m ih =>
    obtain ⟨c, shown⟩ := p
    have hcons : spaced ((c, shown) :: m) = (feedToSpace c, feedToSpace shown) :: spaced m := rfl
    rw [hcons, shownBraces_cons, shownBraces_cons, ih]
    by_cases hshown : shown = '\n'
    · rw [hshown]
      rfl
    · rw [feedToSpace_of_ne hshown]

/-- Within a line there is nothing to replace. -/
theorem spaced_markedFrom {t : Text} (h : '\n' ∉ t) (mode : Mode) :
    spaced (markedFrom mode t) = markedFrom mode t := by
  have hself : ∀ p ∈ markedFrom mode t, Prod.map feedToSpace feedToSpace p = p := by
    intro p hp
    have hfst : p.1 ≠ '\n' := by
      rintro hp1
      apply h
      rw [← text_markedFrom mode t, ← hp1]
      exact List.mem_map_of_mem hp
    have hsnd : p.2 ≠ '\n' := by
      rcases shown_markedFrom mode t p hp with hshown | hshown
      · rwa [hshown]
      · simp [hshown]
    rw [Prod.map, feedToSpace_of_ne hfst, feedToSpace_of_ne hsnd]
  exact (List.map_congr_left hself).trans (List.map_id _)

/-- **The mask of joined lines** is the same whether line feeds or spaces stand between them. -/
theorem markedFrom_join_space {mode : Mode} {lines : List Text} (hsound : ∀ t, mode.Sound t)
    (hfeed : ∀ t ∈ lines, '\n' ∉ t) (hquotes : quotesClosed mode lines = true) :
    markedFrom mode (Text.join [' '] lines) = spaced (markedFrom mode (Text.join ['\n'] lines)) := by
  induction lines generalizing mode with
  | nil => rfl
  | cons t ts ih =>
    have hline := spaced_markedFrom (hfeed t List.mem_cons_self) mode
    cases ts with
    | nil => exact hline.symm
    | cons next ts =>
      obtain ⟨hclosed, hrest⟩ := quotesClosed_cons.1 hquotes
      obtain ⟨hblank, hsound'⟩ := ignoresBlanks_of_closed (sound_after false (hsound t)) hclosed
      have hbreak : (mode.after false t).lineFeed = mode.after false t := hblank '\n' [] rfl
      rw [hbreak] at hrest
      have hjoined := ih hsound' (fun v hv => hfeed v (List.mem_cons_of_mem _ hv)) hrest
      rw [Text.join_cons_cons, Text.join_cons_cons, List.singleton_append, List.singleton_append,
        markedFrom_append_cons rfl hclosed, markedFrom_append_cons rfl hclosed, markedFrom_cons,
        markedFrom_cons, hblank ' ' _ rfl, hblank '\n' _ rfl, hjoined, spaced, spaced, List.map_append,
        List.map_cons]
      congr 1
      · exact hline.symm
      · -- A line feed is shown as itself or as a space, and a space in either case as a space.
        congr 1
        have hshown : ∀ role, feedToSpace (maskChar '\n' role) = ' ' := fun role => by cases role <;> rfl
        have hspace : ∀ role, maskChar ' ' role = ' ' := fun role => ite_self _
        rw [Prod.map, hshown, hspace]
        rfl

/-! ## §3 What is cut out -/

/-- On one line that is also what stands in front of the last closing brace, if no other one is seen behind. -/
theorem tableContent_line {u : Text} (hfeed : '\n' ∉ u) {inner rest : Marked} {c : Char}
    (hmarked : markedFrom .code u = inner ++ (c, '}') :: rest)
    (hinside : depthInside? 0 (shownBraces inner) = some 0) (hrest : ∀ p ∈ rest, p.2 ≠ '}') :
    tableContent ('{' :: u) [] = inner.text := by
  unfold tableContent
  split
  · apply trimOuterBraces_of_beforeLast?
    rw [hmarked]
    exact beforeLast?_append rfl hrest
  · exact contentFromBrace_of_inside hfeed hmarked hinside []

theorem not_mem_replaceChar (t : Text) : '\n' ∉ Text.replaceChar '\n' ' ' t := by
  intro h
  obtain ⟨c, -, hc⟩ := List.mem_map.1 h
  split at hc
  · exact absurd hc (by decide)
  · rename_i hne
    exact hne hc

/-- **A table has the same content on one line.** If no quoted string is open at the end of a line, if the
table is still open behind the first one, and if the brace that closes it is the last closing brace to be seen,
then the lines, joined by spaces, have the content and the fields of the table. -/
theorem tableContent_joined {value : Text} {following : List Text} (hopening : value.head? = some '{')
    (hfeed : ∀ t ∈ value :: following, '\n' ∉ t)
    (hquotes : quotesClosed .code (value :: following) = true) (hopen : ∀ n, ¬ClosesTable value n) {n : Nat}
    (hcloses : ClosesTable (Text.join ['\n'] (value :: following)) n)
    (hlast : LastClosing (Text.join ['\n'] (value :: following)) n) :
    tableContent value following = tableContent (Text.join [' '] (value :: following)) [] ∧
      ∀ types, parseTable value following types =
        parseTable (Text.join [' '] (value :: following)) [] types := by
  obtain ⟨v, rfl⟩ := List.head?_eq_some_iff.1 hopening
  have hfeed' : ∀ t ∈ v :: following, '\n' ∉ t := by
    intro t ht hmem
    rcases List.mem_cons.1 ht with rfl | ht
    · exact hfeed _ List.mem_cons_self (List.mem_cons_of_mem _ hmem)
    · exact hfeed t (List.mem_cons_of_mem _ ht) hmem
  have hquotes' : quotesClosed .code (v :: following) = true := by
    rwa [quotesClosed, after_cons, step_code_open] at hquotes
  -- The value alone does not close the table, so braces are counted along the lines.
  have hunbalanced : isBalanced ('{' :: v) = false := by
    obtain ⟨d, hinside⟩ := exists_depthInside_of_open hopen
    exact isBalanced_eq_false (shownBraces_code v ▸ hinside)
  rw [Text.join_cons_of_cons] at hcloses hlast
  obtain ⟨inner, c, rest, hmarked, hinner, rfl⟩ := closesTable_iff.1 hcloses
  have hrest : ∀ p ∈ rest, p.2 ≠ '}' := by
    have hbehind := hlast.last
    rw [drop_mask_of_marked hmarked] at hbehind
    exact not_mem_shown_iff.1 hbehind
  -- The same braces are seen with spaces between the lines.
  have hsound : ∀ t, Mode.code.Sound t := fun _ => trivial
  have hspaced := markedFrom_join_space hsound hfeed' hquotes'
  have hjoined : markedFrom .code (Text.join [' '] (v :: following)) =
      spaced inner ++ (feedToSpace c, '}') :: spaced rest := by
    rw [hspaced, hmarked]
    exact List.map_append
  have hline : '\n' ∉ Text.join [' '] (v :: following) := by
    rw [← text_markedFrom .code (Text.join [' '] (v :: following)), hspaced, text_spaced]
    exact not_mem_replaceChar _
  have hrest' : ∀ p ∈ spaced rest, p.2 ≠ '}' := by
    intro p hp hp'
    obtain ⟨q, hq, rfl⟩ := List.mem_map.1 hp
    exact hrest q hq ((feedToSpace_eq_iff (by decide) (by decide)).1 hp')
  have hcontent : tableContent ('{' :: v) following =
      tableContent (Text.join [' '] (('{' :: v) :: following)) [] := by
    rw [tableContent_of_open hunbalanced, Text.join_cons_of_cons, Text.join_cons_of_cons,
      contentFromBrace_open hmarked hinner,
      tableContent_line hline hjoined (by rwa [shownBraces_spaced]) hrest', text_spaced]
  refine ⟨hcontent, fun types => ?_⟩
  rw [parseTable, parseTable, hcontent]

/-- The first line of a table with a brace in a long string below it. -/
def openingLine : Text := r"{ a = [[".toList

/-- The lines below it. -/
def linesBelow : List Text := [r"}]],".toList, r"b = 1 }".toList]

/-- The long string goes on below the first line, and the brace in it does not close the table. -/
theorem content_of_openingLine : openingLine.head? = some '{' ∧
    (∀ t ∈ openingLine :: linesBelow, '\n' ∉ t) ∧ quotesClosed .code (openingLine :: linesBelow) = true ∧
    (∀ n, ¬ClosesTable openingLine n) ∧ ClosesTable (Text.join ['\n'] (openingLine :: linesBelow)) 20 ∧
    LastClosing (Text.join ['\n'] (openingLine :: linesBelow)) 20 ∧
    tableContent openingLine linesBelow = tableContent (Text.join [' '] (openingLine :: linesBelow)) [] ∧
    ∀ types, parseTable openingLine linesBelow types =
      parseTable (Text.join [' '] (openingLine :: linesBelow)) [] types := by
  have hfeed : ∀ t ∈ openingLine :: linesBelow, '\n' ∉ t := by decide
  have hquotes : quotesClosed .code (openingLine :: linesBelow) = true := by decide
  -- No place on the first line brings the count back to zero, so the table is open at its end.
  have hopen : ∀ n, ¬ClosesTable openingLine n := by
    intro n h
    have hnone : ∀ n < openingLine.length, braceBalance ((mask openingLine).take (n + 1)) ≠ 0 := by decide
    exact hnone n h.lt_length h.balance_eq_zero
  have hcloses : ClosesTable (Text.join ['\n'] (openingLine :: linesBelow)) 20 :=
    ⟨by decide, by decide, by decide⟩
  have hlast : LastClosing (Text.join ['\n'] (openingLine :: linesBelow)) 20 := ⟨by decide, by decide⟩
  exact ⟨rfl, hfeed, hquotes, hopen, hcloses, hlast,
    tableContent_joined rfl hfeed hquotes hopen hcloses hlast⟩

end LuaAccessors.TableLiteral
