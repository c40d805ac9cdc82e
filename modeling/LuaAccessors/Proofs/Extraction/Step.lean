import LuaAccessors.Extraction

/-!
# One line of an extraction

An extraction takes one line after the other. A statement line takes the directives that wait and may add
a member; every other line is passed over, and a directive outside table literals waits from then on.

- `ScannedLine.isStatement`: the lines that may add a member;
- `Collector.passing`: what waits behind a line that is passed over;
- `extractMembers_of_not_statement`, `extractMembers_of_statement`: the two kinds of steps;
- `cases_declaredMember?`, `exists_of_buildGlobal?`: the member that a statement adds.
-/

namespace LuaAccessors

open Lexis

/-- A line that takes the waiting directives and may add a member. -/
def Lexis.ScannedLine.isStatement (line : ScannedLine) : Bool :=
  !(line.insideTable || line.isContinuation) && !line.isDirective && !line.isBlankLine

/-- The directives that wait behind a line that is passed over. -/
def Collector.passing (waiting : Collector) (line : ScannedLine) : Collector :=
  if line.insideTable || line.isContinuation then waiting
  else if line.isDirective then waiting.push line.text
  else waiting

theorem isStatement_iff {line : ScannedLine} : line.isStatement = true ↔
    line.insideTable = false ∧ line.isContinuation = false ∧ line.isDirective = false ∧
      line.isBlankLine = false := by
  simp [ScannedLine.isStatement, and_assoc]

/-- A line without code is no statement. -/
theorem isStatement_of_code_eq_nil {line : ScannedLine} (h : line.code = []) :
    line.isStatement = false := by
  rw [Bool.eq_false_iff]
  intro hstatement
  obtain ⟨-, -, hdirective, hblank⟩ := isStatement_iff.1 hstatement
  simp only [ScannedLine.code, hdirective, Bool.false_eq_true, if_false] at h
  simp [ScannedLine.isBlankLine, h] at hblank

/-- A line that is no statement is passed over. -/
theorem extractMembers_of_not_statement {line : ScannedLine} (h : line.isStatement = false)
    (waiting : Collector) (rest : List ScannedLine) :
    extractMembers waiting (line :: rest) = extractMembers (waiting.passing line) rest := by
  rw [extractMembers, Collector.passing]
  split
  · rfl
  split
  · rfl
  · rename_i hinside hdirective
    have hblank : line.isBlankLine = true := by
      simpa [ScannedLine.isStatement, hinside, hdirective] using h
    rw [if_pos hblank]

/-- A statement adds the member that it declares, and no directive waits behind it. -/
theorem extractMembers_of_statement {line : ScannedLine} (h : line.isStatement = true)
    (waiting : Collector) (rest : List ScannedLine) :
    extractMembers waiting (line :: rest) =
      ((declaredMember? line.text waiting.take.1 rest).toList ++ (extractMembers {} rest).1,
        (extractMembers {} rest).2) := by
  obtain ⟨hinside, hcontinuation, hdirective, hblank⟩ := isStatement_iff.1 h
  have htake : waiting.take.2 = {} := rfl
  rw [extractMembers]
  simp only [hinside, hcontinuation, hdirective, hblank, htake]
  cases declaredMember? line.text waiting.take.1 rest with
  | none => rfl
  | some member => rfl

/-! ## The member of a statement -/

/-- A member is added by a declaration that is not local, of a function or of a variable. -/
theorem cases_declaredMember? {line : Text} {a : Annotations} {following : List ScannedLine}
    {m : Member} (h : declaredMember? line a following = some m) :
    (∃ name parameterNames,
      Declaration.ofLine? line = some (.function name parameterNames false) ∧
        m = .function (buildFunction name parameterNames false a)) ∨
    (∃ name value g, Declaration.ofLine? line = some (.assignment name value false) ∧
      buildGlobal? name value false a following = some g ∧ m = .global g) := by
  unfold declaredMember? at h
  -- A declaration that is local adds nothing, so in each of the two cases the mark is cleared.
  split at h
  · rename_i name parameterNames isLocal hline
    split at h
    case isTrue => cases h
    rename_i hlocal
    rw [Bool.not_eq_true] at hlocal
    subst hlocal
    exact .inl ⟨name, parameterNames, hline, (Option.some.inj h).symm⟩
  · rename_i name value isLocal hline
    split at h
    case isTrue => cases h
    rename_i hlocal
    rw [Bool.not_eq_true] at hlocal
    subst hlocal
    obtain ⟨g, hg, rfl⟩ := Option.map_eq_some_iff.1 h
    exact .inr ⟨name, value, g, hline, hg, rfl⟩
  · cases h

/-- The variable of an assignment: the value is no function literal, and fields come with a table only. -/
theorem exists_of_buildGlobal? {name value : Text} {isLocal : Bool} {a : Annotations}
    {following : List ScannedLine} {g : Global}
    (h : buildGlobal? name value isLocal a following = some g) :
    startsWithKeyword functionKeyword value = false ∧
      ∃ fields,
        g = { name, valueType := resolveValueType value a.declaredType, fields
              explicitType := a.declaredType, isLocal } ∧
        (fields ≠ [] → resolveValueType value a.declaredType = .table ∧
          fields = TableLiteral.parseTable value (following.map ScannedLine.code) a.fieldTypes) := by
  unfold buildGlobal? at h
  split at h
  case isTrue => cases h
  rename_i hkeyword
  refine ⟨Bool.eq_false_iff.2 hkeyword, _, (Option.some.inj h).symm, fun hne => ?_⟩
  split at hne
  · rename_i htable
    exact ⟨htable.1, if_pos htable⟩
  · exact absurd rfl hne

end LuaAccessors
