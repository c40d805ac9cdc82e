import LuaAccessors.Proofs.Extraction.Step
import LuaAccessors.Proofs.Lexis.Reread

/-!
# Delivery of directives

A directive outside table literals waits for the first statement below it, and that statement takes it,
whether it declares a member or not. Said of the lines of a source as a whole, without the list in which
an extraction keeps what waits: a statement takes the directives between the statement above and itself.

- `directivesFor`, `linesBelow`: what a statement sees of the lines around it;
- `pending`: the directives that no statement has taken by the end of some lines;
- `extractMembers_eq`: an extraction reads off one member per statement;
- `parse_eq_delivered`: what a source declares, statement by statement.
-/

namespace LuaAccessors

open Lexis

/-! ## §1 What a statement sees -/

/-- A directive outside table literals. -/
def Lexis.ScannedLine.waits (line : ScannedLine) : Bool := line.isDirective && !line.insideTable

/-- The directives that a statement takes: those outside table literals that stand above it, with no
other statement in between. -/
def directivesFor (lines : List ScannedLine) (statement : ScannedLine) : List ScannedLine :=
  lines.filter fun d => d.waits && d.number < statement.number &&
    lines.all fun l => !(l.isStatement && d.number < l.number && l.number < statement.number)

/-- The lines below a line. -/
def linesBelow (lines : List ScannedLine) (line : ScannedLine) : List ScannedLine :=
  lines.filter fun l => line.number < l.number

/-- The types that the directives for a statement declare. -/
def annotationsFor (lines : List ScannedLine) (statement : ScannedLine) : Annotations :=
  .ofDirectives ((directivesFor lines statement).map ScannedLine.text)

/-- The first statement below a line. -/
def statementBelow? (lines : List ScannedLine) (line : ScannedLine) : Option ScannedLine :=
  lines.find? fun l => l.isStatement && line.number < l.number

/-- The member that a statement adds. -/
def memberOn? (lines : List ScannedLine) (statement : ScannedLine) : Option Member :=
  declaredMember? statement.text (annotationsFor lines statement) (linesBelow lines statement)

/-- The directives that no statement has taken by the end of the lines. -/
def pending (lines : List ScannedLine) : List ScannedLine :=
  lines.filter fun d => d.waits && lines.all fun l => !(l.isStatement && d.number < l.number)

/-! ## §2 Lines in their order

A statement that stands somewhere in a list of lines cuts it in two. What the statement takes is what waits at
the end of the first part, which is how the collector of the extraction is tied to positions in the whole list.
-/

/-- Lines from top to bottom, by their numbers. -/
def Ascending (lines : List ScannedLine) : Prop := lines.Pairwise fun l m => l.number < m.number

theorem ascending_split {before after : List ScannedLine} {line : ScannedLine}
    (h : Ascending (before ++ line :: after)) :
    (∀ l ∈ before, l.number < line.number) ∧ ∀ l ∈ after, line.number < l.number := by
  obtain ⟨-, hafter, hbefore⟩ := List.pairwise_append.1 h
  exact ⟨fun l hl => hbefore l hl line List.mem_cons_self, (List.pairwise_cons.1 hafter).1⟩

/-- Below a line of some lines stand the lines behind it. -/
theorem linesBelow_split {before after : List ScannedLine} {line : ScannedLine}
    (h : Ascending (before ++ line :: after)) :
    linesBelow (before ++ line :: after) line = after := by
  obtain ⟨hbefore, hafter⟩ := ascending_split h
  -- The numbers grow, so of the three parts only the last one is below the line.
  have hnone : before.filter (fun l => decide (line.number < l.number)) = [] := by
    apply List.filter_eq_nil_iff.2
    intro l hl
    have := hbefore l hl
    simp only [decide_eq_true_eq]
    omega
  have hall : after.filter (fun l => decide (line.number < l.number)) = after := by
    apply List.filter_eq_self.2
    intro l hl
    exact decide_eq_true (hafter l hl)
  rw [linesBelow, List.filter_append, List.filter_cons, hnone, hall]
  simp

/-- A line of some lines takes what waits in front of it. -/
theorem directivesFor_split {before after : List ScannedLine} {line : ScannedLine}
    (h : Ascending (before ++ line :: after)) :
    directivesFor (before ++ line :: after) line = pending before := by
  obtain ⟨hbefore, hafter⟩ := ascending_split h
  rw [directivesFor, List.filter_append]
  -- The line itself and the ones below it are not above it.
  have hnone : (line :: after).filter (fun d => d.waits && d.number < line.number &&
      (before ++ line :: after).all fun l =>
        !(l.isStatement && d.number < l.number && l.number < line.number)) = [] := by
    apply List.filter_eq_nil_iff.2
    intro d hd
    have hnot : ¬d.number < line.number := by
      rcases List.mem_cons.1 hd with rfl | hd
      · exact Nat.lt_irrefl _
      · have := hafter d hd
        omega
    simp [hnot]
  rw [hnone, List.append_nil, pending]
  -- For the lines above it the condition on the lines in between only looks at these.
  apply List.filter_congr
  intro d hd
  have hall : ((before ++ line :: after).all fun l =>
      !(l.isStatement && d.number < l.number && l.number < line.number)) =
      before.all fun l => !(l.isStatement && d.number < l.number) := by
    have hbelow : ((line :: after).all fun l =>
        !(l.isStatement && d.number < l.number && l.number < line.number)) = true := by
      apply List.all_eq_true.2
      intro l hl
      have hnot : ¬l.number < line.number := by
        rcases List.mem_cons.1 hl with rfl | hl
        · exact Nat.lt_irrefl _
        · have := hafter l hl
          omega
      simp [hnot]
    rw [List.all_append, hbelow, Bool.and_true, Bool.eq_iff_iff, List.all_eq_true, List.all_eq_true]
    apply forall₂_congr
    intro l hl
    simp [hbefore l hl]
  rw [hall, decide_eq_true (hbefore d hd), Bool.and_true]

/-- What waits behind one more line. -/
theorem pending_concat {before : List ScannedLine} {line : ScannedLine}
    (h : Ascending (before ++ [line])) :
    pending (before ++ [line]) =
      if line.isStatement then []
      else if line.waits then pending before ++ [line] else pending before := by
  obtain ⟨hbefore, -⟩ := ascending_split h
  cases hstatement : line.isStatement with
  | true =>
    -- A statement takes everything in front of it, and it is no directive.
    apply List.filter_eq_nil_iff.2
    intro d hd
    rcases List.mem_append.1 hd with hd | hd
    · simp [hstatement, hbefore d hd]
    · obtain rfl := List.mem_singleton.1 hd
      have hdirective := (isStatement_iff.1 hstatement).2.2.1
      simp [ScannedLine.waits, hdirective]
  | false =>
    have hall : ∀ d : ScannedLine, ((before ++ [line]).all fun l =>
        !(l.isStatement && d.number < l.number)) =
        before.all fun l => !(l.isStatement && d.number < l.number) := by
      intro d
      simp [List.all_append, hstatement]
    have hself : (before.all fun l => !(l.isStatement && line.number < l.number)) = true := by
      apply List.all_eq_true.2
      intro l hl
      have := hbefore l hl
      have hnot : ¬line.number < l.number := by omega
      simp [hnot]
    unfold pending
    simp only [List.filter_append, hall, List.filter_singleton, hself, Bool.and_true]
    cases line.waits <;> simp

/-! ## §3 The lines of a source -/

theorem number_scanLine (state : ScanState) (raw : Text) :
    (scanLine state raw).1.number = state.lineNumber + 1 ∧
      (scanLine state raw).2.lineNumber = state.lineNumber + 1 := by
  simp only [scanLine]
  split <;> exact ⟨rfl, rfl⟩

theorem number_scanLines {state : ScanState} {raws : List Text} :
    ∀ l ∈ (scanLines state raws).1, state.lineNumber < l.number := by
  induction raws generalizing state with
  | nil => exact fun l hl => by cases hl
  | cons raw raws ih =>
    intro l hl
    obtain ⟨hline, hstate⟩ := number_scanLine state raw
    rw [scanLines_cons] at hl
    rcases List.mem_cons.1 hl with rfl | hl
    · rw [hline]
      exact Nat.lt_succ_self _
    · have := ih l hl
      rw [hstate] at this
      exact Nat.lt_of_succ_lt this

theorem ascending_scanLines (state : ScanState) (raws : List Text) :
    Ascending (scanLines state raws).1 := by
  induction raws generalizing state with
  | nil => exact List.Pairwise.nil
  | cons raw raws ih =>
    obtain ⟨hline, hstate⟩ := number_scanLine state raw
    rw [scanLines_cons]
    apply List.pairwise_cons.2
    refine ⟨fun l hl => ?_, ih (scanLine state raw).2⟩
    have := number_scanLines l hl
    rwa [hline, ← hstate]

/-- The lines of a source stand in the order of their numbers. -/
theorem ascending_scan (source : Text) : Ascending (scan source) := ascending_scanLines _ _

/-- A directive does not start inside a long string or a block comment. -/
theorem isContinuation_of_isDirective {source : Text} {line : ScannedLine} (hl : line ∈ scan source)
    (h : line.isDirective = true) : line.isContinuation = false := by
  unfold scan at hl
  generalize ({} : ScanState) = state at hl
  generalize splitLines source = raws at hl
  -- By induction on the lines, with any state in front: a line is marked as a directive only in code.
  induction raws generalizing state with
  | nil => cases hl
  | cons raw raws ih =>
    rw [scanLines_cons] at hl
    rcases List.mem_cons.1 hl with rfl | hl
    · simp only [scanLine] at h ⊢
      split at h
      · rename_i hmark
        rw [if_pos hmark]
      · cases h
    · exact ih _ hl

/-! ## §4 One member per statement -/

theorem Collector.passing_eq {line : ScannedLine} (hline : line.isDirective = true →
    line.isContinuation = false) (waiting : Collector) :
    waiting.passing line = if line.waits then waiting.push line.text else waiting := by
  unfold Collector.passing ScannedLine.waits
  cases hdirective : line.isDirective with
  | false => simp
  | true => cases hinside : line.insideTable <;> simp [hline hdirective]

/-- **An extraction reads off one member per statement.** Behind the lines `before`, with their pending
directives waiting, it adds the members of the statements to come, and the pending directives of all
lines wait behind it. -/
theorem extractMembers_eq {before rest : List ScannedLine} (h : Ascending (before ++ rest))
    (hdirective : ∀ l ∈ rest, l.isDirective = true → l.isContinuation = false) :
    extractMembers ⟨(pending before).map ScannedLine.text⟩ rest =
      ((rest.filter ScannedLine.isStatement).filterMap (memberOn? (before ++ rest)),
        ⟨(pending (before ++ rest)).map ScannedLine.text⟩) := by
  induction rest generalizing before with
  | nil => simp [extractMembers]
  | cons line rest ih =>
    have hsplit : before ++ line :: rest = (before ++ [line]) ++ rest := by simp
    have hconcat := pending_concat (h.sublist (by simp) : Ascending (before ++ [line]))
    have ih' := ih (hsplit ▸ h) (fun l hl => hdirective l (List.mem_cons_of_mem _ hl))
    rw [← hsplit] at ih'
    cases hstatement : line.isStatement with
    | true =>
      -- The statement takes what waits in front of it, and nothing waits behind it.
      rw [hconcat, if_pos hstatement] at ih'
      have htakes : memberOn? (before ++ line :: rest) line =
          declaredMember? line.text (.ofDirectives ((pending before).map ScannedLine.text)) rest := by
        rw [memberOn?, annotationsFor, directivesFor_split h, linesBelow_split h]
      rw [extractMembers_of_statement hstatement, List.filter_cons_of_pos hstatement,
        List.filterMap_cons, htakes]
      have hrest : extractMembers {} rest = _ := ih'
      rw [hrest]
      simp only [Collector.take]
      cases declaredMember? line.text
        (.ofDirectives ((pending before).map ScannedLine.text)) rest <;> rfl
    | false =>
      -- A line that is passed over waits exactly if it is a directive outside table literals.
      have hpassed : ¬line.isStatement = true := by simp [hstatement]
      rw [hconcat, if_neg hpassed] at ih'
      rw [extractMembers_of_not_statement hstatement,
        Collector.passing_eq (hdirective line List.mem_cons_self), List.filter_cons_of_neg hpassed,
        ← ih']
      cases line.waits <;> simp [Collector.push]

/-- The members of a source are those of its statements. -/
theorem extractMembers_scan (source : Text) :
    (extractMembers {} (scan source)).1 =
      ((scan source).filter ScannedLine.isStatement).filterMap (memberOn? (scan source)) := by
  have h := @extractMembers_eq [] (scan source) (ascending_scan source)
    (fun l hl => isContinuation_of_isDirective hl)
  exact congrArg Prod.fst h

/-! ## §5 What a source declares -/

/-- The function on a statement, local or not. -/
def functionOn? (lines : List ScannedLine) (statement : ScannedLine) : Option Function :=
  match Declaration.ofLine? statement.text with
  | some (.function name parameterNames isLocal) =>
    some (buildFunction name parameterNames isLocal (annotationsFor lines statement))
  | _ => none

/-- The variable on a statement, local or not. -/
def globalOn? (lines : List ScannedLine) (statement : ScannedLine) : Option Global :=
  match Declaration.ofLine? statement.text with
  | some (.assignment name value isLocal) =>
    buildGlobal? name value isLocal (annotationsFor lines statement) (linesBelow lines statement)
  | _ => none

theorem isLocal_of_buildGlobal? {name value : Text} {isLocal : Bool} {a : Annotations}
    {following : List ScannedLine} {g : Global}
    (h : buildGlobal? name value isLocal a following = some g) : g.isLocal = isLocal := by
  obtain ⟨-, fields, rfl, -⟩ := exists_of_buildGlobal? h
  rfl

/-- The functions that a source declares are those on its statements that are not local. -/
theorem memberFunctions_memberOn? (lines statements : List ScannedLine) :
    memberFunctions (statements.filterMap (memberOn? lines)) =
      (statements.filterMap (functionOn? lines)).filter (!·.isLocal) := by
  rw [memberFunctions, List.filterMap_filterMap, List.filter_filterMap]
  apply List.filterMap_congr
  intro s _
  unfold memberOn? declaredMember? functionOn?
  rcases Declaration.ofLine? s.text with _ | ⟨name, parameterNames, _ | _⟩ | ⟨name, value, _ | _⟩
  case none => rfl
  case some.function.false => rfl
  case some.function.true => rfl
  case some.assignment.true => rfl
  case some.assignment.false =>
    -- An assignment declares no function, whatever is assigned.
    dsimp only
    generalize buildGlobal? name value false (annotationsFor lines s) (linesBelow lines s) = built
    cases built <;> rfl

/-- The variables that a source declares are those on its statements that are not local. -/
theorem memberGlobals_memberOn? (lines statements : List ScannedLine) :
    memberGlobals (statements.filterMap (memberOn? lines)) =
      (statements.filterMap (globalOn? lines)).filter (!·.isLocal) := by
  rw [memberGlobals, List.filterMap_filterMap, List.filter_filterMap]
  apply List.filterMap_congr
  intro s _
  unfold memberOn? declaredMember? globalOn?
  rcases Declaration.ofLine? s.text with _ | ⟨name, parameterNames, _ | _⟩ | ⟨name, value, isLocal⟩
  case none => rfl
  case some.function.false => rfl
  case some.function.true => rfl
  case some.assignment =>
    -- What is built is local exactly if the declaration is.
    have hlocal := @isLocal_of_buildGlobal? name value isLocal (annotationsFor lines s)
      (linesBelow lines s)
    dsimp only
    generalize buildGlobal? name value isLocal (annotationsFor lines s) (linesBelow lines s) = built
      at hlocal ⊢
    cases built with
    | none => cases isLocal <;> rfl
    | some g =>
      have hg := hlocal rfl
      cases isLocal <;> simp [Option.filter_some, hg]

/-- A directive that a statement takes stands above it, and no other statement stands in between. -/
theorem mem_directivesFor {lines : List ScannedLine} {d s : ScannedLine} :
    d ∈ directivesFor lines s ↔ d ∈ lines ∧ d.waits = true ∧ d.number < s.number ∧
      ∀ l ∈ lines, l.isStatement = true → d.number < l.number → s.number ≤ l.number := by
  rw [directivesFor, List.mem_filter]
  simp only [Bool.and_eq_true, decide_eq_true_eq, List.all_eq_true, Bool.not_eq_true', and_assoc,
    Bool.and_eq_false_iff, decide_eq_false_iff_not, Nat.not_lt]
  -- Only the condition on the lines in between is put differently.
  apply and_congr_right
  intro _
  apply and_congr_right
  intro _
  apply and_congr_right
  intro _
  apply forall₂_congr
  intro l _
  cases l.isStatement with
  | false => simp
  | true =>
    simp only [Bool.true_eq_false, false_or, forall_true_left]
    omega

/-- A statement takes a directive exactly if it is the first statement below it. -/
theorem mem_directivesFor_iff {lines : List ScannedLine} (h : Ascending lines)
    {d s : ScannedLine} (hd : d ∈ lines) (hs : s ∈ lines) (hstatement : s.isStatement = true) :
    d ∈ directivesFor lines s ↔ d.waits = true ∧ statementBelow? lines d = some s := by
  rw [mem_directivesFor, statementBelow?, List.find?_eq_some_iff_append]
  simp only [hd, true_and, Bool.and_eq_true, decide_eq_true_eq, hstatement]
  apply and_congr_right
  intro _
  apply and_congr_right
  intro habove
  constructor
  · intro hnone
    obtain ⟨before, after, rfl⟩ := List.append_of_mem hs
    refine ⟨before, after, rfl, fun l hl => ?_⟩
    -- A statement in front would stand between the two.
    have hl' := hnone l (List.mem_append_left _ hl)
    have hbefore := (ascending_split h).1 l hl
    cases hstatement' : l.isStatement with
    | false => rfl
    | true =>
      have hnot : ¬d.number < l.number := fun hlt => by
        have := hl' hstatement' hlt
        omega
      simp [hnot]
  · rintro ⟨before, after, rfl, hnone⟩ l hl hstatement' hlt
    rcases List.mem_append.1 hl with hl | hl
    · have hl' := hnone l hl
      simp [hstatement', hlt] at hl'
    · -- What stands behind the statement is not above it.
      rcases List.mem_cons.1 hl with rfl | hl
      · exact Nat.le_refl _
      · exact Nat.le_of_lt ((ascending_split h).2 l hl)

/-- **Every directive is delivered once.** What a source declares is read off its statements from top to
bottom, each with the types that the directives for it declare, and what is local is left out. A statement
gets exactly those directives outside table literals below which it is the first statement. -/
theorem parse_eq_delivered (source fileName : Text) :
    parse source fileName =
        { fileName
          functions := (((scan source).filter ScannedLine.isStatement).filterMap
            (functionOn? (scan source))).filter (!·.isLocal)
          globals := (((scan source).filter ScannedLine.isStatement).filterMap
            (globalOn? (scan source))).filter (!·.isLocal) } ∧
      ∀ d ∈ scan source, ∀ s ∈ (scan source).filter ScannedLine.isStatement,
        d ∈ directivesFor (scan source) s ↔
          d.isDirective = true ∧ d.depthBefore = 0 ∧ statementBelow? (scan source) d = some s := by
  constructor
  · show ParseResult.mk fileName (memberFunctions (extractMembers {} (scan source)).1)
      (memberGlobals (extractMembers {} (scan source)).1) [] = _
    -- The step by step extraction gives one member per statement, each from what its statement sees.
    rw [extractMembers_scan, memberFunctions_memberOn?, memberGlobals_memberOn?]
  · intro d hd s hs
    obtain ⟨hs, hstatement⟩ := List.mem_filter.1 hs
    rw [mem_directivesFor_iff (ascending_scan source) hd hs hstatement]
    simp [ScannedLine.waits, ScannedLine.insideTable, and_assoc]

/-- A directive reaches a statement across a blank line. -/
theorem delivered_across_blank_line :
    (⟨1, "---@type string".toList, 0, 0, true, false⟩ : ScannedLine) ∈
      directivesFor (scan "---@type string\n\nx = y".toList)
        ⟨3, "x = y".toList, 0, 0, false, false⟩ :=
  ((parse_eq_delivered "---@type string\n\nx = y".toList []).2 _ (by decide) _ (by decide)).2
    (by decide)

end LuaAccessors
