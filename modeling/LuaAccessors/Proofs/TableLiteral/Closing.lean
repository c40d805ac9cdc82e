import LuaAccessors.Proofs.Lexis.Depth
import LuaAccessors.Proofs.Lexis.Mask
import LuaAccessors.Proofs.Text.Cut
import LuaAccessors.TableLiteral.Content

/-!
# The brace that closes a table

A table ends at the first place behind which as many of its visible braces have closed as have opened. Its content
is found by counting along the text, where a line break becomes a space, and the count stops at that place. A text
that has no such place is content up to its end.

- `ClosesTable`, `between`: the place, and what stands in front of it;
- `closesTable_iff`: the place, found by counting the tables that are open;
- `closingLine?`, `tableClosingLine?`: the line of the place;
- `CountCase`, `countCase`: what one marked character does to the counts;
- `tableClosingLine?_eq_some_iff`, `contentFromBrace_of_closesTable`, `contentFromBrace_of_open`: the line and the
  content, said by the place.
-/

namespace LuaAccessors.TableLiteral

open Lexis

/-! ## §1 The place

Opening and closing braces are counted against each other. The first character is the brace that opens the table,
so the difference is positive up to the place where the table closes.
-/

/-- How many more of the braces open than close. -/
def braceBalance (shown : Text) : Int := shown.count '{' - shown.count '}'

/-- Place `n` is the first one behind which the visible braces of a text that starts with one balance. -/
structure ClosesTable (value : Text) (n : Nat) : Prop where
  lt_length : n < value.length
  balance_eq_zero : braceBalance ((mask value).take (n + 1)) = 0
  balance_ne_zero : ∀ k < n, braceBalance ((mask value).take (k + 1)) ≠ 0

theorem ClosesTable.unique {value : Text} {m n : Nat} (hm : ClosesTable value m) (hn : ClosesTable value n) :
    m = n := by
  rcases Nat.lt_trichotomy m n with hlt | heq | hlt
  · exact absurd hm.balance_eq_zero (hn.balance_ne_zero m hlt)
  · exact heq
  · exact absurd hn.balance_eq_zero (hm.balance_ne_zero n hlt)

/-- The text behind the first character and before place `n`. -/
def between (value : Text) (n : Nat) : Text := (value.take n).drop 1

/-- A brace that opens a table is code, and what follows it too. -/
theorem step_code_open (comments : Bool) (rest : Text) :
    Mode.step comments .code '{' rest = (.code, .code) :=
  step_code_of_isBare rfl comments rest

theorem markedFrom_open (rest : Text) :
    marked ('{' :: rest) = ('{', '{') :: markedFrom .code rest := by
  rw [marked_eq, markedFrom_cons, step_code_open]
  rfl

/-! ### A text that is cut where something is shown -/

section

variable {u : Text} {front behind : Marked} {p : Char × Char}
  (h : markedFrom .code u = front ++ p :: behind)

include h

/-- The mask of the table. -/
theorem mask_of_marked : mask ('{' :: u) = '{' :: (front.map (·.2) ++ p.2 :: behind.map (·.2)) := by
  rw [← map_snd_marked, markedFrom_open, h, List.map_cons, List.map_append, List.map_cons]

theorem drop_mask_of_marked : (mask ('{' :: u)).drop (front.length + 1 + 1) = behind.map (·.2) := by
  rw [mask_of_marked h, List.drop_succ_cons]
  simp [List.drop_append]

/-- The text, cut there. -/
theorem text_of_marked : u = front.text ++ p.1 :: Marked.text behind := by
  rw [← text_markedFrom .code u, h]
  exact List.map_append

/-- What is cut off there stands between the first brace and that place. -/
theorem between_of_marked : between ('{' :: u) (front.length + 1) = front.text := by
  have hlength : front.length = front.text.length := (List.length_map _).symm
  rw [between, List.take_succ_cons, List.drop_one, List.tail_cons, text_of_marked h, hlength,
    List.take_left]

end

/-! ## §2 The place, by the count of open tables

Inside a table `depthInside?` counts the tables that are open. It ends at the brace that closes the table, and until
then it is one less than the difference of the braces.
-/

/-- The braces close the table at one of them. -/
theorem exists_closing {m : Marked} {depth : Nat} (h : depthInside? depth (shownBraces m) = none) :
    ∃ inner c rest, m = inner ++ (c, '}') :: rest ∧ depthInside? depth (shownBraces inner) = some 0 := by
  induction m generalizing depth with
  | nil => cases h
  | cons p m ih =>
    obtain ⟨c, shown⟩ := p
    -- A brace that does not close the table leaves it to a later one, at the depth behind it.
    have hcons : ∀ next, (∀ l, depthInside? depth (shownBraces ((c, shown) :: l)) =
        depthInside? next (shownBraces l)) → ∃ inner c' rest, (c, shown) :: m =
          inner ++ (c', '}') :: rest ∧ depthInside? depth (shownBraces inner) = some 0 := by
      intro next hstep
      obtain ⟨inner, c', rest, rfl, hinner⟩ := ih ((hstep m).symm.trans h)
      exact ⟨(c, shown) :: inner, c', rest, rfl, (hstep inner).trans hinner⟩
    by_cases hopen : shown = '{'
    · exact hcons (depth + 1) fun l => by simp [shownBraces_cons, hopen, isBrace, depthInside?]
    by_cases hclose : shown = '}'
    · cases depth with
      | zero => exact ⟨[], c, m, by rw [hclose, List.nil_append], rfl⟩
      | succ depth =>
        exact hcons depth fun l => by simp [shownBraces_cons, hclose, isBrace, depthInside?]
    · -- What is no brace changes nothing.
      exact hcons depth fun l => by simp [shownBraces_cons, hopen, hclose, isBrace]

/-- As long as a table stays open, no place closes it. -/
theorem braceBalance_of_depthInside {m : Marked} {d : Nat} (h : depthInside? 0 (shownBraces m) = some d) :
    braceBalance (m.map (·.2)) = d := by
  have hcount := count_of_depthInside h
  rw [count_shownBraces rfl, count_shownBraces rfl] at hcount
  unfold braceBalance
  omega

/-- What stays open did so before. -/
theorem exists_depthInside_take {m : Marked} {depth d : Nat} (h : depthInside? depth (shownBraces m) = some d)
    (k : Nat) : ∃ e, depthInside? depth (shownBraces (m.take k)) = some e := by
  have hsplit : shownBraces m = shownBraces (m.take k) ++ shownBraces (m.drop k) := by
    rw [shownBraces, shownBraces, shownBraces, ← List.filter_append, ← List.map_append, List.take_append_drop]
  rw [hsplit, depthInside?_append] at h
  obtain ⟨e, he, -⟩ := Option.bind_eq_some_iff.1 h
  exact ⟨e, he⟩

theorem closesTable_of_inside {u : Text} {inner rest : Marked} {c : Char}
    (hmarked : markedFrom .code u = inner ++ (c, '}') :: rest)
    (hinside : depthInside? 0 (shownBraces inner) = some 0) :
    ClosesTable ('{' :: u) (inner.length + 1) := by
  -- The mask is the opening brace, what is visible of the inner text, and the closing brace.
  have hmask := mask_of_marked hmarked
  constructor
  case lt_length =>
    have hlength : (mask ('{' :: u)).length = ('{' :: u).length := length_mask _
    rw [hmask] at hlength
    simp at hlength ⊢
    omega
  case balance_eq_zero =>
    have hbalance := braceBalance_of_depthInside hinside
    have htake : (mask ('{' :: u)).take (inner.length + 1 + 1) =
        '{' :: (inner.map (·.2) ++ ['}']) := by
      have hlength : (inner.map (·.2)).length = inner.length := List.length_map _
      rw [hmask, List.take_succ_cons, ← hlength, List.take_length_add_append]
      rfl
    rw [htake]
    simp [braceBalance] at hbalance ⊢
    omega
  -- In front of that place the count has not come back to where it started, so one brace more is open than is
  -- closed.
  case balance_ne_zero =>
    intro k hk
    obtain ⟨e, he⟩ := exists_depthInside_take hinside k
    have hbalance := braceBalance_of_depthInside he
    have htake : (mask ('{' :: u)).take (k + 1) = '{' :: (inner.take k).map (·.2) := by
      rw [hmask, List.take_succ_cons, List.take_append_of_le_length (by simp; omega), List.map_take]
    rw [htake]
    simp [braceBalance] at hbalance ⊢
    omega

/-- In a table that stays open the braces balance nowhere. -/
theorem not_closesTable_of_depthInside {u : Text} {d : Nat}
    (h : depthInside? 0 (shownBraces (markedFrom .code u)) = some d) (place : Nat) :
    ¬ClosesTable ('{' :: u) place := by
  intro hcloses
  obtain ⟨e, he⟩ := exists_depthInside_take h place
  have hbalance := braceBalance_of_depthInside he
  have hzero := hcloses.balance_eq_zero
  rw [← map_snd_marked, markedFrom_open, List.map_cons, List.take_succ_cons, ← List.map_take] at hzero
  simp [braceBalance] at hbalance hzero
  omega

/-- **The place that closes a table** is the visible brace that ends the count. -/
theorem closesTable_iff {u : Text} {place : Nat} :
    ClosesTable ('{' :: u) place ↔ ∃ inner c rest, markedFrom .code u = inner ++ (c, '}') :: rest ∧
      depthInside? 0 (shownBraces inner) = some 0 ∧ place = inner.length + 1 := by
  constructor
  · intro h
    -- The count ends at some visible brace, and there is only one first place. Or it does not end, and there is
    -- none.
    cases hinside : depthInside? 0 (shownBraces (markedFrom .code u)) with
    | none =>
      obtain ⟨inner, c, rest, hmarked, hinner⟩ := exists_closing hinside
      exact ⟨inner, c, rest, hmarked, hinner, h.unique (closesTable_of_inside hmarked hinner)⟩
    | some d => exact absurd h (not_closesTable_of_depthInside hinside place)
  · rintro ⟨inner, c, rest, hmarked, hinner, rfl⟩
    exact closesTable_of_inside hmarked hinner

/-- A table that no place closes stays open up to the end of the text. -/
theorem exists_depthInside_of_open {u : Text} (h : ∀ place, ¬ClosesTable ('{' :: u) place) :
    ∃ d, depthInside? 0 (shownBraces (markedFrom .code u)) = some d := by
  cases hinside : depthInside? 0 (shownBraces (markedFrom .code u)) with
  | none =>
    obtain ⟨inner, c, rest, hmarked, hinner⟩ := exists_closing hinside
    exact absurd (closesTable_of_inside hmarked hinner) (h _)
  | some d => exact ⟨d, rfl⟩

/-! ## §3 The line and the content

The content is cut out by a walk along the text. A second walk counts the line feeds that the first one passes.
-/

/-- How many line feeds stand before the visible brace that closes a table in which `depth` more are
open; nothing if no brace does. -/
def closingLine? (depth : Nat) : Marked → Option Nat
  | [] => none
  | (c, shown) :: rest =>
    if c = '\n' then (closingLine? depth rest).map (· + 1)
    else if shown = '{' then closingLine? (depth + 1) rest
    else if shown = '}' then if depth = 0 then some 0 else closingLine? (depth - 1) rest
    else closingLine? depth rest

/-- The line that closes the table which the first visible opening brace opens: zero for the line of
`value`, then one for each of the lines that follow it. -/
def tableClosingLine? (value : Text) (following : List Text) : Option Nat :=
  match (marked (Text.join ['\n'] (value :: following))).dropWhile (·.2 != '{') with
  | [] => none
  | _ :: inner => closingLine? 0 inner

theorem contentWithin_cons (depth : Nat) (c shown : Char) (rest : Marked) :
    contentWithin depth ((c, shown) :: rest) =
      if c = '\n' then ' ' :: contentWithin depth rest
      else if shown = '{' then c :: contentWithin (depth + 1) rest
      else if shown = '}' then if depth = 0 then [] else c :: contentWithin (depth - 1) rest
      else c :: contentWithin depth rest := by
  cases depth <;> rfl

/-- What one marked character does to the counts of a table in which `depth` more are open: it is a line
feed, it closes the table, or it leads to another depth inside the table. -/
inductive CountCase (depth : Nat) (c shown : Char) : Prop where
  | lineFeed (hc : c = '\n')
      (hcount : ∀ m, closingLine? depth ((c, shown) :: m) = (closingLine? depth m).map (· + 1))
      (hcontent : ∀ m, contentWithin depth ((c, shown) :: m) = ' ' :: contentWithin depth m)
  | closing (hc : c ≠ '\n')
      (hcount : ∀ m, closingLine? depth ((c, shown) :: m) = some 0)
      (hcontent : ∀ m, contentWithin depth ((c, shown) :: m) = [])
      (hbraces : ∀ m, depthInside? depth (shownBraces ((c, shown) :: m)) = none)
  | inside (d : Nat) (hc : c ≠ '\n')
      (hcount : ∀ m, closingLine? depth ((c, shown) :: m) = closingLine? d m)
      (hcontent : ∀ m, contentWithin depth ((c, shown) :: m) = c :: contentWithin d m)
      (hbraces : ∀ m, depthInside? depth (shownBraces ((c, shown) :: m)) =
        depthInside? d (shownBraces m))

theorem countCase (depth : Nat) (c shown : Char) : CountCase depth c shown := by
  -- A line feed is looked at first, as the count itself does. Of the other characters only braces matter.
  by_cases hc : c = '\n'
  · apply CountCase.lineFeed hc <;>
    · intro m
      simp [closingLine?, contentWithin_cons, hc]
  by_cases hopen : shown = '{'
  · subst hopen
    apply CountCase.inside (depth + 1) hc <;>
    · intro m
      simp [closingLine?, contentWithin_cons, shownBraces_cons, depthInside?, isBrace, hc]
  by_cases hclose : shown = '}'
  · subst hclose
    cases depth with
    | zero =>
      apply CountCase.closing hc <;>
      · intro m
        simp [closingLine?, contentWithin_cons, shownBraces_cons, depthInside?, isBrace, hc]
    | succ depth =>
      apply CountCase.inside depth hc <;>
      · intro m
        simp [closingLine?, contentWithin_cons, shownBraces_cons, depthInside?, isBrace, hc]
  · apply CountCase.inside depth hc <;>
    · intro m
      simp [closingLine?, contentWithin_cons, shownBraces_cons, isBrace, hc, hopen, hclose]

/-- **Inside a table** all that is read is content, with spaces in place of line feeds, and every line feed counts. -/
theorem walk_of_depthInside {depth d : Nat} {m : Marked}
    (hm : ∀ p ∈ m, p.2 = p.1 ∨ p.2 = ' ') (h : depthInside? depth (shownBraces m) = some d)
    (more : Marked) :
    contentWithin depth (m ++ more) = Text.replaceChar '\n' ' ' m.text ++ contentWithin d more ∧
      closingLine? depth (m ++ more) = (closingLine? d more).map (· + m.text.count '\n') := by
  induction m generalizing depth with
  | nil =>
    obtain rfl := Option.some.inj h
    simp [Text.replaceChar, Marked.text]
  | cons p m ih =>
    obtain ⟨c, shown⟩ := p
    have ih' := fun {n} => @ih n fun q hq => hm q (List.mem_cons_of_mem _ hq)
    have htext : Text.replaceChar '\n' ' ' (Marked.text ((c, shown) :: m)) =
        (if c = '\n' then ' ' else c) :: Text.replaceChar '\n' ' ' (Marked.text m) := rfl
    have hfeeds : (Marked.text ((c, shown) :: m)).count '\n' =
        (Marked.text m).count '\n' + if c = '\n' then 1 else 0 := by
      simp [Marked.text, List.count_cons]
    rw [List.cons_append, htext, hfeeds, List.cons_append]
    cases countCase depth c shown with
    | lineFeed hc hcount hcontent =>
      -- A mask shows a line feed as itself or as a space, never as a brace.
      have hshown : isBrace shown = false := by
        have hblank : shown = c ∨ shown = ' ' := hm _ List.mem_cons_self
        rcases hblank with rfl | rfl
        · rw [hc]
          rfl
        · rfl
      rw [shownBraces_cons, hshown] at h
      obtain ⟨hmore, hlines⟩ := ih' h
      rw [hcontent, hcount, if_pos hc, if_pos hc, hmore, hlines, Option.map_map]
      exact ⟨rfl, rfl⟩
    | closing _ _ _ hbraces =>
      rw [hbraces] at h
      cases h
    | inside next hc hcount hcontent hbraces =>
      rw [hbraces] at h
      obtain ⟨hmore, hlines⟩ := ih' h
      rw [hcontent, hcount, if_neg hc, if_neg hc, hmore, hlines]
      exact ⟨rfl, rfl⟩

section

variable {u : Text} {inner rest : Marked} {c : Char}
  (hmarked : markedFrom .code u = inner ++ (c, '}') :: rest)
  (hinside : depthInside? 0 (shownBraces inner) = some 0)

include hmarked hinside

/-- Both walks stop at the brace that closes the table. -/
theorem walk_of_closing :
    contentWithin 0 (markedFrom .code u) = Text.replaceChar '\n' ' ' inner.text ∧
      closingLine? 0 (markedFrom .code u) = some (inner.text.count '\n') := by
  have hblank : ∀ p ∈ inner, p.2 = p.1 ∨ p.2 = ' ' := fun p hp =>
    shown_markedFrom .code u p (by simp [hmarked, hp])
  have hc : c = '}' := by
    have hmem : (c, '}') ∈ markedFrom .code u := by simp [hmarked]
    exact fst_eq_of_shown hmem (by simp)
  obtain ⟨hcontent, hline⟩ := walk_of_depthInside hblank hinside ((c, '}') :: rest)
  rw [hmarked, hcontent, hline, hc]
  simp [contentWithin_cons, closingLine?]

/-- Counting braces finds what stands in front of the brace that closes the table. -/
theorem contentFromBrace_open :
    contentFromBrace (marked ('{' :: u)) = Text.replaceChar '\n' ' ' inner.text := by
  have hwithin : contentFromBrace (marked ('{' :: u)) = contentWithin 0 (markedFrom .code u) := by
    rw [markedFrom_open]
    rfl
  rw [hwithin, (walk_of_closing hmarked hinside).1]

end

/-- **The content of a table that closes** reaches up to the place that closes it. -/
theorem contentFromBrace_of_closesTable {u : Text} {place : Nat} (h : ClosesTable ('{' :: u) place) :
    contentFromBrace (marked ('{' :: u)) = Text.replaceChar '\n' ' ' (between ('{' :: u) place) := by
  obtain ⟨inner, c, rest, hmarked, hinside, rfl⟩ := closesTable_iff.1 h
  rw [contentFromBrace_open hmarked hinside, between_of_marked hmarked]

/-- **The content of a table that no place closes** is all that stands behind the first brace. -/
theorem contentFromBrace_of_open {u : Text} (h : ∀ place, ¬ClosesTable ('{' :: u) place) :
    contentFromBrace (marked ('{' :: u)) = Text.replaceChar '\n' ' ' u := by
  obtain ⟨d, hd⟩ := exists_depthInside_of_open h
  have hcontent := (walk_of_depthInside (shown_markedFrom .code u) hd []).1
  rw [List.append_nil, text_markedFrom] at hcontent
  rw [markedFrom_open]
  exact hcontent.trans (List.append_nil _)

/-- **The line that closes a table** is the one with the place that closes it. -/
theorem tableClosingLine?_eq_some_iff {v : Text} {following : List Text} {n : Nat} :
    tableClosingLine? ('{' :: v) following = some n ↔
      ∃ place, ClosesTable (Text.join ['\n'] (('{' :: v) :: following)) place ∧
        ((Text.join ['\n'] (('{' :: v) :: following)).take place).count '\n' = n := by
  rw [tableClosingLine?, Text.join_cons_of_cons, markedFrom_open]
  show closingLine? 0 (markedFrom .code (Text.join ['\n'] (v :: following))) = some n ↔ _
  generalize Text.join ['\n'] (v :: following) = u
  -- The text up to the place is the brace in front and what the walk has passed.
  have hpassed : ∀ {inner rest : Marked} {c : Char}, markedFrom .code u = inner ++ (c, '}') :: rest →
      (('{' :: u).take (inner.length + 1)).count '\n' = inner.text.count '\n' := by
    intro inner rest c hmarked
    have hlength : inner.length = inner.text.length := (List.length_map _).symm
    rw [List.take_succ_cons, text_of_marked hmarked, hlength, List.take_left]
    exact List.count_cons_of_ne (by decide)
  constructor
  · intro hline
    cases hinside : depthInside? 0 (shownBraces (markedFrom .code u)) with
    | some d =>
      have hnone := (walk_of_depthInside (shown_markedFrom .code u) hinside []).2
      rw [List.append_nil, hline] at hnone
      cases hnone
    | none =>
      obtain ⟨inner, c, rest, hmarked, hinner⟩ := exists_closing hinside
      rw [(walk_of_closing hmarked hinner).2] at hline
      exact ⟨_, closesTable_of_inside hmarked hinner, (hpassed hmarked).trans (Option.some.inj hline)⟩
  · rintro ⟨place, hcloses, rfl⟩
    obtain ⟨inner, c, rest, hmarked, hinner, rfl⟩ := closesTable_iff.1 hcloses
    rw [(walk_of_closing hmarked hinner).2, hpassed hmarked]

/-! ### Further text -/

/-- Behind the closing brace nothing belongs to the content. -/
theorem contentWithin_append {depth : Nat} {m : Marked} (h : (closingLine? depth m).isSome)
    (more : Marked) : contentWithin depth (m ++ more) = contentWithin depth m := by
  induction m generalizing depth with
  | nil => cases h
  | cons p rest ih =>
    obtain ⟨c, shown⟩ := p
    rw [List.cons_append]
    -- Where the count ends nothing behind matters, and it does end.
    cases countCase depth c shown with
    | lineFeed _ hcount hcontent =>
      rw [hcount, Option.isSome_map] at h
      rw [hcontent, hcontent, ih h]
    | closing _ _ hcontent => rw [hcontent, hcontent]
    | inside d _ hcount hcontent =>
      rw [hcount] at h
      rw [hcontent, hcontent, ih h]

/-- A table that closes on line `n` closes within the first `n` line feeds. -/
theorem closingLine?_of_append {depth n : Nat} {m more : Marked} {shown : Char}
    (h : closingLine? depth (m ++ ('\n', shown) :: more) = some n)
    (hn : n ≤ m.text.count '\n') : closingLine? depth m = some n := by
  -- Along the text in front. The number of line feeds that is left bounds the line on which the table closes.
  induction m generalizing depth n with
  | nil =>
    -- Nothing is left in front, and the table would close behind the line feed.
    obtain rfl : n = 0 := by simpa [Marked.text] using hn
    simp [closingLine?] at h
  | cons p rest ih =>
    obtain ⟨c, d⟩ := p
    have htext : Marked.text ((c, d) :: rest) = c :: Marked.text rest := rfl
    rw [htext, List.count_cons] at hn
    rw [List.cons_append] at h
    cases countCase depth c d with
    | lineFeed hc hcount =>
      rw [hcount] at h
      obtain ⟨k, hk, rfl⟩ := Option.map_eq_some_iff.1 h
      rw [hcount, ih hk (by simpa [hc] using hn)]
      rfl
    | closing _ hcount =>
      rw [hcount] at h
      rw [hcount, h]
    | inside d hc hcount =>
      rw [hcount] at h
      rw [hcount]
      exact ih h (by simpa [hc] using hn)

end LuaAccessors.TableLiteral
