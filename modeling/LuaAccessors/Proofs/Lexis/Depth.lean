import LuaAccessors.Proofs.Lexis.Agreement

/-!
# Depths inside a table

What the braces of a line do to a table that is open in front of them. The table itself is one of the
braces that the lexer counts; the tables inside it are counted from zero, and the count ends where the
table is closed.

- `depthInside?`: the count along some braces;
- `LexedLine.reachesZero`, `LexedLine.StaysOpen`: what the depths of a lexed line show of it.
-/

namespace LuaAccessors.Lexis

/-! ## §1 Counting braces

Two ways to count. One goes on past depth zero, and starts over there, as the scan does. The other one stops
when the table it is in is closed. They agree as long as the table is open.
-/

/-- How many tables are open inside a table behind some braces, where `depth` are open before them;
nothing if the braces close the table itself. -/
def depthInside? : Nat → Text → Option Nat
  | depth, [] => some depth
  | depth, b :: bs =>
    if b = '{' then depthInside? (depth + 1) bs
    else if b = '}' then if depth = 0 then none else depthInside? (depth - 1) bs
    else depthInside? depth bs

/-- The count goes on where it has led. -/
theorem depthInside?_append (depth : Nat) (bs cs : Text) :
    depthInside? depth (bs ++ cs) = (depthInside? depth bs).bind (depthInside? · cs) := by
  induction bs generalizing depth with
  | nil => rfl
  | cons b bs ih =>
    rw [List.cons_append, depthInside?, depthInside?]
    split
    · exact ih (depth + 1)
    · split
      · split
        · rfl
        · exact ih (depth - 1)
      · exact ih depth

/-- As long as the table stays open a brace leads to another depth inside it. -/
theorem depthInside?_cons {depth d : Nat} {b : Char} {bs : Text}
    (h : depthInside? depth (b :: bs) = some d) :
    ∃ next, depthInside? next bs = some d ∧
      ((b = '{' ∧ next = depth + 1) ∨ (b = '}' ∧ depth = next + 1) ∨
        (isBrace b = false ∧ next = depth)) := by
  rw [depthInside?] at h
  split at h
  · rename_i hopen
    exact ⟨depth + 1, h, .inl ⟨hopen, rfl⟩⟩
  split at h
  · rename_i hclose
    -- At depth zero a closing brace would leave the table.
    cases depth with
    | zero => cases h
    | succ depth => exact ⟨depth, h, .inr (.inl ⟨hclose, rfl⟩)⟩
  · rename_i hopen hclose
    exact ⟨depth, h, .inr (.inr ⟨by simp [isBrace, hopen, hclose], rfl⟩)⟩

/-- The table itself is one more than the tables inside it. -/
theorem foldl_depthBehind {depth d : Nat} {bs : Text} (h : depthInside? depth bs = some d) :
    bs.foldl depthBehind (depth + 1) = d + 1 := by
  induction bs generalizing depth with
  | nil => simpa [depthInside?] using h
  | cons b bs ih =>
    obtain ⟨next, hrest, hb⟩ := depthInside?_cons h
    -- Inside the table both counts take the same step, one of them one further up.
    have hstep : depthBehind (depth + 1) b = next + 1 := by
      rcases hb with ⟨rfl, rfl⟩ | ⟨rfl, rfl⟩ | ⟨hb, rfl⟩
      · rfl
      · rfl
      · exact depthBehind_of_not_brace hb _
    rw [List.foldl_cons, hstep]
    exact ih hrest

/-- A single brace that closes the table leads to depth zero. -/
theorem foldl_eq_zero_of_depthInside {depth : Nat} {bs : Text} (hlength : bs.length ≤ 1)
    (h : depthInside? depth bs = none) : bs.foldl depthBehind (depth + 1) = 0 := by
  match bs with
  | [] => cases h
  | [b] =>
    rw [depthInside?] at h
    split at h
    · cases h
    split at h
    · rename_i hclose
      split at h
      · rename_i hdepth
        rw [hclose, hdepth]
        rfl
      · cases h
    · cases h
  | _ :: _ :: _ => simp at hlength

/-- More braces open than close as long as the table stays open. -/
theorem count_of_depthInside {depth d : Nat} {bs : Text} (h : depthInside? depth bs = some d) :
    bs.count '{' + depth = bs.count '}' + d := by
  induction bs generalizing depth with
  | nil =>
    obtain rfl : depth = d := by simpa [depthInside?] using h
    rfl
  | cons b bs ih =>
    obtain ⟨next, hrest, hb⟩ := depthInside?_cons h
    have hcount := ih hrest
    -- A brace opens, or closes, or the character is none.
    rcases hb with ⟨rfl, rfl⟩ | ⟨rfl, rfl⟩ | ⟨hb, rfl⟩
    · simp
      omega
    · simp
      omega
    · have hne : b ≠ '{' ∧ b ≠ '}' := by simpa [isBrace] using hb
      simpa [hne] using hcount

/-! ## §2 Depths of a lexed line -/

/-- The depth reaches zero somewhere on the line. -/
def LexedLine.reachesZero (l : LexedLine) : Bool := l.lexemes.any (·.after.depth == 0)

/-- The first opening brace of the line is still open at its end: behind it the depth never falls
below the depth inside it. -/
def LexedLine.StaysOpen (l : LexedLine) : Prop :=
  ∃ before w behind, l.lexemes = before ++ w :: behind ∧ (∀ v ∈ before, '{' ∉ v.braces) ∧
    '{' ∈ w.braces ∧ ∀ v ∈ behind, w.after.depth ≤ v.after.depth

/-- The depth of the lexer follows the count inside a table. -/
theorem reachesZero_iff {depth : Nat} {ws : List Lexeme} (h : DepthsFollow (depth + 1) ws) :
    (∃ w ∈ ws, w.after.depth = 0) ↔ depthInside? depth (ws.flatMap Lexeme.braces) = none := by
  induction ws generalizing depth with
  | nil => simp [depthInside?]
  | cons w ws ih =>
    obtain ⟨hlength, hdepth, hrest⟩ := h
    rw [List.flatMap_cons, List.exists_mem_cons_iff, depthInside?_append]
    -- The lexeme closes the table, or the count goes on behind it. A lexeme has one brace at most.
    cases hinside : depthInside? depth w.braces with
    | none =>
      have hzero := hdepth.trans (foldl_eq_zero_of_depthInside hlength hinside)
      simp [hzero]
    | some next =>
      have hnext := hdepth.trans (foldl_depthBehind hinside)
      rw [hnext] at hrest
      simp [hnext, ih hrest]

theorem reachesZero_eq {p : Position} {depth : Nat} {ws : List Lexeme}
    (h : DepthsFollow (depth + 1) ws) :
    (LexedLine.mk p ws).reachesZero = (depthInside? depth (ws.flatMap Lexeme.braces)).isNone := by
  rw [Bool.eq_iff_iff, Option.isNone_iff_eq_none, ← reachesZero_iff h]
  simp [LexedLine.reachesZero]

/-- The depths behind some lexemes start where these have led. -/
theorem DepthsFollow.of_append {depth : Nat} {ws vs : List Lexeme}
    (h : DepthsFollow depth (ws ++ vs)) :
    DepthsFollow ((ws.flatMap Lexeme.braces).foldl depthBehind depth) vs := by
  induction ws generalizing depth with
  | nil => exact h
  | cons w ws ih =>
    obtain ⟨-, hdepth, hrest⟩ := h
    rw [List.flatMap_cons, List.foldl_append, ← hdepth]
    exact ih hrest

/-- A table that the first brace of a line opens is not closed on the line if it stays open. -/
theorem exists_depthInside_of_staysOpen {p : Position} {ws : List Lexeme} {bs : Text}
    (h : DepthsFollow 0 ws) (hbraces : ws.flatMap Lexeme.braces = '{' :: bs)
    (hopen : (LexedLine.mk p ws).StaysOpen) : ∃ depth, depthInside? 0 bs = some depth := by
  obtain ⟨before, w, behind, hws, hbefore, hw, hbehind⟩ := hopen
  obtain rfl : ws = before ++ w :: behind := hws
  -- Nothing in front of the first opening brace counts.
  have hnone : before.flatMap Lexeme.braces = [] := by
    cases hb : before.flatMap Lexeme.braces with
    | nil => rfl
    | cons b more =>
      rw [List.flatMap_append, hb, List.cons_append] at hbraces
      obtain ⟨rfl, -⟩ := List.cons.inj hbraces
      obtain ⟨v, hv, hmem⟩ := List.mem_flatMap.1 (hb ▸ List.mem_cons_self :
        '{' ∈ before.flatMap Lexeme.braces)
      exact absurd hmem (hbefore v hv)
  -- So the first brace is the one of `w`, and behind it the depth is one.
  have hfollow := h.of_append
  rw [hnone] at hfollow
  obtain ⟨hle, hdepth, hrest⟩ := hfollow
  have hone : w.braces = ['{'] := by
    match hb : w.braces, hw with
    | [b], hw => rw [List.mem_singleton.1 hw]
    | _ :: _ :: _, _ => simp [hb] at hle
  rw [hone] at hdepth
  have hdepth' : w.after.depth = 0 + 1 := hdepth
  rw [hdepth'] at hrest
  rw [List.flatMap_append, List.flatMap_cons, hnone, hone] at hbraces
  obtain ⟨-, rfl⟩ := List.cons.inj hbraces
  -- The depth stays above zero, so the count does not end.
  cases hinside : depthInside? 0 (behind.flatMap Lexeme.braces) with
  | some depth => exact ⟨depth, hinside⟩
  | none =>
    obtain ⟨v, hv, hzero⟩ := (reachesZero_iff hrest).2 hinside
    have := hbehind v hv
    omega

/-! ## §3 Depths of a scan -/

section

variable {state : ScanState} {raw : Text} {ws : List Lexeme} {q : Position}
  (h : LineReads state.position raw ws q)

include h

theorem depth_scanLine :
    (scanLine state raw).2.depth = (ws.flatMap Lexeme.braces).foldl depthBehind state.depth := by
  have hposition := congrArg Position.depth (scanLine_agrees h).2
  rw [← h.braces_eq]
  exact hposition.trans h.depth_eq

/-- A table that opens with the first brace of a line and stays open is open on the next one. -/
theorem depth_scanLine_opened (hdepth : state.depth = 0) {bs : Text}
    (hbraces : ws.flatMap Lexeme.braces = '{' :: bs) {d : Nat}
    (hinside : depthInside? 0 bs = some d) : (scanLine state raw).2.depth = d + 1 := by
  rw [depth_scanLine h, hbraces, hdepth]
  exact foldl_depthBehind hinside

/-- A table that stays open on a line is open on the next one. -/
theorem depth_scanLine_inside {depth d : Nat} (hdepth : state.depth = depth + 1)
    (hinside : depthInside? depth (ws.flatMap Lexeme.braces) = some d) :
    (scanLine state raw).2.depth = d + 1 := by
  rw [depth_scanLine h, hdepth]
  exact foldl_depthBehind hinside

end

end LuaAccessors.Lexis
