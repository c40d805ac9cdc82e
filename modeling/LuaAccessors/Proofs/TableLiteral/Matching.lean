import LuaAccessors.Proofs.TableLiteral.Spaced

/-!
# The last closing brace

A table on one line ends at the brace behind which, for the first time, as many visible braces have closed as
have opened. Counting along the lines stops there. A text whose braces balance is cut at its last visible
closing brace instead, which is the same place only if no code with braces follows the table on its line.

- `LastClosing`: the last place;
- `beforeLast?_eq_some`, `lastClosing_of_marked`: how it is found;
- `contentFromBrace_of_inside`, `trimOuterBraces_of_beforeLast?`: what is cut off at each of the two places;
- `tableContent_of_balanced`: what is cut out, and when it is the content of the table;
- `content_not_up_to_closing`: a table with code behind it.
-/

namespace LuaAccessors.TableLiteral

open Lexis

/-! ## §1 The last place

Reading from the end, the first closing brace that is visible is where a balanced text is cut. No count is kept.
-/

/-- The last visible closing brace stands at place `n`. -/
structure LastClosing (value : Text) (n : Nat) : Prop where
  shown : (mask value)[n]? = some '}'
  last : '}' ∉ (mask value).drop (n + 1)

theorem not_mem_shown_iff {d : Char} {m : Marked} : d ∉ m.map (·.2) ↔ ∀ q ∈ m, q.2 ≠ d := by
  rw [List.mem_map, not_exists]
  exact forall_congr' fun q => not_and

theorem ne_of_beforeLast?_eq_none {d : Char} {m : Marked} (h : beforeLast? d m = none) :
    ∀ q ∈ m, q.2 ≠ d := by
  induction m with
  | nil => simp
  | cons p m ih =>
    rw [beforeLast?] at h
    cases hrest : beforeLast? d m with
    | some front => simp [hrest] at h
    | none =>
      have hp : p.2 ≠ d := by
        rintro rfl
        simp [hrest] at h
      exact List.forall_mem_cons.2 ⟨hp, ih hrest⟩

theorem beforeLast?_eq_some {d : Char} {m front : Marked} (h : beforeLast? d m = some front) :
    ∃ p rest, m = front ++ p :: rest ∧ p.2 = d ∧ ∀ q ∈ rest, q.2 ≠ d := by
  induction m generalizing front with
  | nil => cases h
  | cons p m ih =>
    rw [beforeLast?] at h
    -- If the sign is found further on, that is the last one. Else the first character may be it.
    cases hrest : beforeLast? d m with
    | some front' =>
      rw [hrest] at h
      obtain rfl := Option.some.inj h
      obtain ⟨q, rest, rfl, hq, hbehind⟩ := ih hrest
      exact ⟨q, rest, rfl, hq, hbehind⟩
    | none =>
      rw [hrest] at h
      dsimp only at h
      split at h
      · rename_i hp
        obtain rfl := Option.some.inj h
        exact ⟨p, m, rfl, hp, ne_of_beforeLast?_eq_none hrest⟩
      · cases h

/-- No other place is the last one. -/
theorem beforeLast?_append {d : Char} {front rest : Marked} {p : Char × Char} (hp : p.2 = d)
    (hrest : ∀ q ∈ rest, q.2 ≠ d) : beforeLast? d (front ++ p :: rest) = some front := by
  induction front with
  | nil =>
    have hnone : beforeLast? d rest = none := by
      cases h : beforeLast? d rest with
      | none => rfl
      | some front =>
        obtain ⟨q, behind, rfl, hq, -⟩ := beforeLast?_eq_some h
        exact absurd hq (hrest q (by simp))
    rw [List.nil_append, beforeLast?, hnone]
    exact if_pos hp
  | cons q front ih =>
    rw [List.cons_append, beforeLast?, ih]

/-! ## §2 What is cut out

The two ways to cut are compared where both are taken: on one line, with a table that closes.
-/

/-- The first line of a text is marked as it is on its own. -/
theorem exists_markedFrom_join (u : Text) (following : List Text) :
    ∃ more, markedFrom .code (Text.join ['\n'] (u :: following)) = markedFrom .code u ++ more := by
  cases following with
  | nil => exact ⟨[], (List.append_nil _).symm⟩
  | cons t ts =>
    obtain ⟨shown, hmarked⟩ := markedFrom_append_lineFeed .code u (Text.join ['\n'] (t :: ts))
    rw [Text.join_cons_cons, List.singleton_append]
    exact ⟨_, hmarked⟩

/-- Counting along the lines stops at the brace that closes the table, if that is on the first line. -/
theorem contentFromBrace_of_inside {u : Text} (hfeed : '\n' ∉ u) {inner rest : Marked} {c : Char}
    (hmarked : markedFrom .code u = inner ++ (c, '}') :: rest)
    (hinside : depthInside? 0 (shownBraces inner) = some 0) (following : List Text) :
    contentFromBrace (marked (Text.join ['\n'] (('{' :: u) :: following))) = inner.text := by
  obtain ⟨more, hmore⟩ := exists_markedFrom_join u following
  -- The lines below do not change what the first line shows.
  have hjoined : markedFrom .code (Text.join ['\n'] (u :: following)) =
      inner ++ (c, '}') :: (rest ++ more) := by
    rw [hmore, hmarked, List.append_assoc, List.cons_append]
  -- Nor is there a line break in what is cut out.
  have hline : Text.replaceChar '\n' ' ' inner.text = inner.text := by
    have hself : ∀ x ∈ inner.text, (if x = '\n' then ' ' else x) = x := by
      intro x hx
      rw [if_neg]
      rintro rfl
      apply hfeed
      rw [text_of_marked hmarked]
      exact List.mem_append_left _ hx
    exact (List.map_congr_left hself).trans (List.map_id _)
  rw [Text.join_cons_of_cons, contentFromBrace_open hjoined hinside, hline]

/-- Cutting at the last closing brace. -/
theorem trimOuterBraces_of_beforeLast? {u : Text} {front : Marked}
    (h : beforeLast? '}' (markedFrom .code u) = some front) :
    trimOuterBraces ('{' :: u) = front.text := by
  rw [trimOuterBraces_eq, markedFrom_open]
  simp [h]

theorem lastClosing_of_marked {u : Text} {front behind : Marked} {p : Char × Char}
    (h : markedFrom .code u = front ++ p :: behind) (hp : p.2 = '}')
    (hbehind : ∀ q ∈ behind, q.2 ≠ '}') : LastClosing ('{' :: u) (front.length + 1) := by
  have hmask := mask_of_marked h
  constructor
  case shown => simp [hmask, hp]
  case last =>
    rw [drop_mask_of_marked h]
    exact not_mem_shown_iff.2 hbehind

/-- **What is cut out of a text whose braces balance.** It reaches up to the last visible closing brace, which is
the content of the table, as counting along the lines finds it, exactly if no closing brace is visible behind the
one that closes the table. -/
theorem tableContent_of_balanced {value : Text} (hfeed : '\n' ∉ value) (hopen : value.head? = some '{')
    (hbalanced : isBalanced value = true) (following : List Text) :
    ∃ closing last, ClosesTable value closing ∧ LastClosing value last ∧
      contentFromBrace (marked (Text.join ['\n'] (value :: following))) = between value closing ∧
      tableContent value following = between value last ∧
      (tableContent value following = contentFromBrace (marked (Text.join ['\n'] (value :: following))) ↔
        '}' ∉ (mask value).drop (closing + 1)) := by
  obtain ⟨u, rfl⟩ := List.head?_eq_some_iff.1 hopen
  cases hinside : depthInside? 0 (shownBraces (markedFrom .code u)) with
  | some depth =>
    rw [isBalanced_eq_false (shownBraces_code u ▸ hinside)] at hbalanced
    cases hbalanced
  | none =>
    obtain ⟨inner, c, rest, hmarked, hinner⟩ := exists_closing hinside
    have hlast : beforeLast? '}' (markedFrom .code u) ≠ none := by
      intro hnone
      refine ne_of_beforeLast?_eq_none hnone (c, '}') ?_ rfl
      simp [hmarked]
    obtain ⟨front, hfront⟩ := Option.ne_none_iff_exists'.1 hlast
    obtain ⟨p, behind, hmarked', hp, hbehind⟩ := beforeLast?_eq_some hfront
    refine ⟨inner.length + 1, front.length + 1, closesTable_of_inside hmarked hinner, ?_, ?_, ?_, ?_⟩
    · exact lastClosing_of_marked hmarked' hp hbehind
    · rw [between_of_marked hmarked]
      exact contentFromBrace_of_inside (fun h => hfeed (List.mem_cons_of_mem _ h)) hmarked hinner following
    · rw [between_of_marked hmarked', tableContent, if_pos hbalanced]
      exact trimOuterBraces_of_beforeLast? hfront
    · rw [tableContent, if_pos hbalanced, trimOuterBraces_of_beforeLast? hfront,
        contentFromBrace_of_inside (fun h => hfeed (List.mem_cons_of_mem _ h)) hmarked hinner,
        drop_mask_of_marked hmarked]
      constructor
      · -- Texts that are equal end at the same brace.
        intro htext
        have hlength : front.length = inner.length := by
          simpa [Marked.text] using congrArg List.length htext
        obtain ⟨-, hrest⟩ := List.append_inj (hmarked'.symm.trans hmarked) hlength
        obtain rfl := (List.cons.inj hrest).2
        exact not_mem_shown_iff.2 hbehind
      · intro hlast
        have hinner' : beforeLast? '}' (markedFrom .code u) = some inner := by
          rw [hmarked]
          exact beforeLast?_append rfl (not_mem_shown_iff.1 hlast)
        rw [Option.some.inj (hfront.symm.trans hinner')]

/-- A table that is an argument in code behind another one. -/
def valueWithCall : Text := "{ a = 1 } f({ b = 2 })".toList

theorem closesTable_valueWithCall : ClosesTable valueWithCall 8 := ⟨by decide, by decide, by decide⟩

/-- There the cut is behind the place where the table closes. -/
theorem content_of_valueWithCall : '\n' ∉ valueWithCall ∧ valueWithCall.head? = some '{' ∧
    isBalanced valueWithCall = true ∧
    ∃ closing last, ClosesTable valueWithCall closing ∧ LastClosing valueWithCall last ∧
      contentFromBrace (marked (Text.join ['\n'] [valueWithCall])) = between valueWithCall closing ∧
      tableContent valueWithCall [] = between valueWithCall last ∧
      (tableContent valueWithCall [] = contentFromBrace (marked (Text.join ['\n'] [valueWithCall])) ↔
        '}' ∉ (mask valueWithCall).drop (closing + 1)) := by
  have hfeed : '\n' ∉ valueWithCall := by decide
  have hbalanced : isBalanced valueWithCall = true := by decide
  exact ⟨hfeed, rfl, hbalanced, tableContent_of_balanced hfeed rfl hbalanced []⟩

/-- **Code behind a table can belong to what is cut out**: its braces are taken for those of the table. -/
theorem content_not_up_to_closing : ¬∀ (value : Text) (following : List Text), '\n' ∉ value →
    value.head? = some '{' → isBalanced value = true → ∀ n, ClosesTable value n →
      tableContent value following = between value n := by
  intro h
  have hcontent := h valueWithCall [] (by decide) rfl (by decide) 8 closesTable_valueWithCall
  exact absurd hcontent (by decide)

end LuaAccessors.TableLiteral
