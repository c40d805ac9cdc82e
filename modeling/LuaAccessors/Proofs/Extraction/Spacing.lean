import LuaAccessors.Proofs.Declaration.Spaced
import LuaAccessors.Proofs.Extraction.Step
import LuaAccessors.Proofs.Lexis.SpacedScan
import LuaAccessors.Proofs.TableLiteral.Spaced

/-!
# Block comments separate as spaces do

A block comment that opens and closes on one line may be replaced by a space: the source declares the same
functions and variables, of the same kinds and with the same types and fields. Two things are asked for. The space
must not come between two parts that make up one token without it, and no line may become a directive. The texts
of keys and of parameters are kept as they stand, so the space is seen in them.

- `Member.Spaced`, `ParseResult.Spaced`: equal up to spaces in keys and parameters;
- `spaced_declaredMember?`, `spaced_extractMembers`: one statement, and all lines;
- `ParseResult.keys`, `ParseResult.Spaced.eq_of_keys`: equal keys and parameters make equal schemas;
- `parse_spacedSource`: the schemas of both sources.
-/

namespace LuaAccessors

open Lexis TableLiteral

/-! ## §1 Members up to spaces -/

/-- The parameters are equal up to spaces in the name, and to what is annotated for the name. -/
structure Parameter.Spaced (p p' : Parameter) : Prop where
  name_spaced : Lexis.Spaced [] p.name p'.name
  explicitType_eq : p.name = p'.name → p.explicitType = p'.explicitType

/-- The functions are equal up to spaces in their parameters. -/
structure Function.Spaced (f f' : Function) : Prop where
  name_eq : f.name = f'.name
  returnType_eq : f.returnType = f'.returnType
  isLocal_eq : f.isLocal = f'.isLocal
  parameters : List.Forall₂ Parameter.Spaced f.parameters f'.parameters

/-- The variables are equal up to spaces in the keys of their fields. -/
structure Global.Spaced (g g' : Global) : Prop where
  name_eq : g.name = g'.name
  valueType_eq : g.valueType = g'.valueType
  explicitType_eq : g.explicitType = g'.explicitType
  isLocal_eq : g.isLocal = g'.isLocal
  fields : List.Forall₂ Field.Spaced g.fields g'.fields

/-- The members are of one sort and equal up to spaces in keys and parameters. -/
inductive Member.Spaced : Member → Member → Prop
  | function {f f' : Function} (h : f.Spaced f') : Member.Spaced (.function f) (.function f')
  | global {g g' : Global} (h : g.Spaced g') : Member.Spaced (.global g) (.global g')

/-- The schemas are equal up to spaces in keys and parameters. -/
structure ParseResult.Spaced (r r' : ParseResult) : Prop where
  fileName_eq : r.fileName = r'.fileName
  errors_eq : r.errors = r'.errors
  functions : List.Forall₂ Function.Spaced r.functions r'.functions
  globals : List.Forall₂ Global.Spaced r.globals r'.globals

/-! ## §2 One statement

A statement and the lines below it decide on its member. If all of these differ in spaces only, the members do.
Kinds, types and names are equal; spaces are left in what is kept as it is written, which are keys and parameters.
-/

theorem spaced_buildFunction {parameters parameters' : List Text}
    (h : List.Forall₂ (Lexis.Spaced []) parameters parameters') (name : Text) (isLocal : Bool)
    (a : Annotations) :
    (buildFunction name parameters isLocal a).Spaced (buildFunction name parameters' isLocal a) where
  name_eq := rfl
  returnType_eq := rfl
  isLocal_eq := rfl
  parameters := List.rel_map (fun _ _ hp => ⟨hp, fun heq => congrArg a.parameterTypes.get? heq⟩) h

theorem Lexis.ScannedLine.Spaced.code {line line' : ScannedLine} (h : line.Spaced line') :
    Lexis.Spaced [] line.code line'.code := by
  unfold ScannedLine.code
  rw [← h.isDirective_eq]
  split
  · exact .nil []
  · exact h.text_spaced

theorem spaced_buildGlobal? {value value' : Text} (h : Lexis.Spaced [] value value')
    (hvalue : Text.Trimmed value') {following following' : List ScannedLine}
    (hfollowing : List.Forall₂ ScannedLine.Spaced following following') (name : Text) (isLocal : Bool)
    (a : Annotations) :
    Option.Rel Global.Spaced (buildGlobal? name value isLocal a following)
      (buildGlobal? name value' isLocal a following') := by
  -- Every question that is asked about the value has the same answer for both values.
  have hkeyword : startsWithKeyword functionKeyword value = startsWithKeyword functionKeyword value' :=
    h.startsWithKeyword_eq hvalue.head (by decide) (by decide)
  have hinfer : inferValueType value = inferValueType value' := h.inferValueType_eq
  have hresolve : resolveValueType value a.declaredType = resolveValueType value' a.declaredType :=
    h.resolveValueType_eq a.declaredType
  have hcode : List.Forall₂ (Lexis.Spaced []) (following.map ScannedLine.code)
      (following'.map ScannedLine.code) := List.rel_map (fun _ _ hl => hl.code) hfollowing
  unfold buildGlobal?
  rw [hkeyword]
  split
  · exact .none
  · refine .some ⟨rfl, hresolve, rfl, rfl, ?_⟩
    simp only [hresolve, hinfer]
    split
    · -- The fields come from both contents, which differ in spaces again.
      exact spaced_parseFields (spaced_tableContent h hcode) a.fieldTypes
    · exact .nil

/-- Both statements declare the same member up to spaces, or none declares one. -/
theorem spaced_declaredMember? {line line' : ScannedLine} (h : line.Spaced line')
    {following following' : List ScannedLine}
    (hfollowing : List.Forall₂ ScannedLine.Spaced following following') (a : Annotations) :
    Option.Rel Member.Spaced (declaredMember? line.text a following)
      (declaredMember? line'.text a following') := by
  -- Both lines are read as the same declaration, up to spaces in its parts.
  have hdeclares := h.text_spaced.ofLine? h.trimmed h.no_feed
  have hno_feed' : '\n' ∉ line'.text := fun hmem => h.no_feed ((h.text_spaced.mem_iff (by decide)).2 hmem)
  have htrimmed : ∀ name value isLocal,
      Declaration.ofLine? line'.text = some (.assignment name value isLocal) → Text.Trimmed value := by
    intro name value isLocal hassign
    obtain ⟨-, -, -, hvalue⟩ := exists_of_assignment hassign hno_feed' h.trimmed
    exact hvalue
  unfold declaredMember?
  -- From here on only the two declarations count.
  generalize Declaration.ofLine? line.text = d at hdeclares ⊢
  generalize Declaration.ofLine? line'.text = d' at hdeclares htrimmed ⊢
  cases hdeclares with
  | none => exact .none
  | some hd =>
    cases hd with
    | @function name parameters parameters' isLocal hparameters =>
      cases isLocal with
      | true => exact .none
      | false => exact .some (.function (spaced_buildFunction hparameters name false a))
    | @assignment name value value' isLocal hvalue =>
      cases isLocal with
      | true => exact .none
      | false =>
        have hglobal := spaced_buildGlobal? hvalue (htrimmed _ _ _ rfl) hfollowing name false a
        simp only [Bool.false_eq_true, if_false]
        generalize buildGlobal? name value false a following = g at hglobal ⊢
        generalize buildGlobal? name value' false a following' = g' at hglobal ⊢
        cases hglobal with
        | none => exact .none
        | some hg => exact .some (.global hg)

/-! ## §3 All lines -/

theorem Lexis.ScannedLine.Spaced.isStatement_eq {line line' : ScannedLine} (h : line.Spaced line') :
    line.isStatement = line'.isStatement := by
  have hblank : line.isBlankLine = line'.isBlankLine := by
    rw [Bool.eq_iff_iff, ScannedLine.isBlankLine, ScannedLine.isBlankLine, List.isEmpty_iff, List.isEmpty_iff]
    exact h.text_spaced.eq_nil_iff h.trimmed.head
  unfold ScannedLine.isStatement
  rw [h.insideTable_eq, h.isContinuation_eq, h.isDirective_eq, hblank]

theorem Lexis.ScannedLine.Spaced.passing_eq {line line' : ScannedLine} (h : line.Spaced line')
    (waiting : Collector) : waiting.passing line = waiting.passing line' := by
  unfold Collector.passing
  rw [h.insideTable_eq, h.isContinuation_eq, h.isDirective_eq]
  split
  · rfl
  split
  · rename_i hdirective
    rw [h.text_of_directive (h.isDirective_eq.trans hdirective)]
  · rfl

/-- **All lines.** The members of both scans are equal up to spaces. -/
theorem spaced_extractMembers {lines lines' : List ScannedLine}
    (h : List.Forall₂ ScannedLine.Spaced lines lines') (waiting : Collector) :
    List.Forall₂ Member.Spaced (extractMembers waiting lines).1 (extractMembers waiting lines').1 := by
  -- In front of corresponding lines the same directives wait. A statement takes them all, so behind it none does.
  induction h generalizing waiting with
  | nil => exact .nil
  | @cons line line' rest rest' hline hrest ih =>
    cases hstatement : line.isStatement with
    | false =>
      have hstatement' : line'.isStatement = false := hline.isStatement_eq ▸ hstatement
      rw [extractMembers_of_not_statement hstatement, extractMembers_of_not_statement hstatement',
        hline.passing_eq]
      exact ih _
    | true =>
      have hstatement' : line'.isStatement = true := hline.isStatement_eq ▸ hstatement
      rw [extractMembers_of_statement hstatement, extractMembers_of_statement hstatement']
      have hmember := spaced_declaredMember? hline hrest waiting.take.1
      generalize declaredMember? line.text waiting.take.1 rest = m at hmember ⊢
      generalize declaredMember? line'.text waiting.take.1 rest' = m' at hmember ⊢
      cases hmember with
      | none => exact ih {}
      | some hm => exact .cons hm (ih {})

theorem spaced_memberFunctions {members members' : List Member}
    (h : List.Forall₂ Member.Spaced members members') :
    List.Forall₂ Function.Spaced (memberFunctions members) (memberFunctions members') := by
  refine List.rel_filterMap ?_ h
  intro m m' hm
  cases hm with
  | function hf => exact .some hf
  | global hg => exact .none

theorem spaced_memberGlobals {members members' : List Member}
    (h : List.Forall₂ Member.Spaced members members') :
    List.Forall₂ Global.Spaced (memberGlobals members) (memberGlobals members') := by
  refine List.rel_filterMap ?_ h
  intro m m' hm
  cases hm with
  | function hf => exact .none
  | global hg => exact .some hg

/-! ## §4 Equal keys -/

mutual

/-- The keys of a field and of the fields in it, from the outside in. -/
def Field.keys : Field → List Text
  | ⟨name, _, fields, _⟩ => name :: keysOf fields

/-- The keys of some fields. -/
def keysOf : List Field → List Text
  | [] => []
  | f :: fs => f.keys ++ keysOf fs

end

/-- The keys of all fields and the names of all parameters. -/
def ParseResult.keys (r : ParseResult) : List Text :=
  (r.functions.flatMap fun f => f.parameters.map Parameter.name) ++ r.globals.flatMap fun g => keysOf g.fields

mutual

theorem Field.Spaced.eq_of_keys : ∀ {f f' : Field}, f.Spaced f' → ∀ {x x' : List Text},
    f.keys ++ x = f'.keys ++ x' → f = f' ∧ x = x'
  | ⟨name, valueType, fields, explicitType⟩, ⟨name', valueType', fields', explicitType'⟩,
      .intro _ hexplicit hvalue hfields, x, x', h => by
    rw [Field.keys, Field.keys, List.cons_append, List.cons_append] at h
    obtain ⟨hname, hrest⟩ := List.cons.inj h
    -- With the key the annotation is the same, with that the kind, and with these the fields compare.
    have htype := hexplicit hname
    obtain ⟨hown, hbehind⟩ := eq_of_keysOf (hfields htype) hrest
    have hkind := hvalue htype
    dsimp only at htype hkind hown
    exact ⟨by rw [hname, htype, hkind, hown], hbehind⟩

theorem eq_of_keysOf : ∀ {fs fs' : List Field}, List.Forall₂ Field.Spaced fs fs' → ∀ {x x' : List Text},
    keysOf fs ++ x = keysOf fs' ++ x' → fs = fs' ∧ x = x'
  | [], [], .nil, x, x', h => ⟨rfl, h⟩
  | f :: fs, f' :: fs', .cons hf hfs, x, x', h => by
    rw [keysOf, keysOf, List.append_assoc, List.append_assoc] at h
    obtain ⟨rfl, hrest⟩ := hf.eq_of_keys h
    obtain ⟨rfl, hbehind⟩ := eq_of_keysOf hfs hrest
    exact ⟨rfl, hbehind⟩

end

/-- Members in the relation `R` are equal if their keys are, and what follows the keys is equal then. -/
def DecidedByKeys {α : Type} (R : α → α → Prop) (keys : α → List Text) : Prop :=
  ∀ {a a' : α}, R a a' → ∀ {x x' : List Text}, keys a ++ x = keys a' ++ x' → a = a' ∧ x = x'

theorem DecidedByKeys.flatMap {α : Type} {R : α → α → Prop} {keys : α → List Text}
    (hR : DecidedByKeys R keys) : DecidedByKeys (List.Forall₂ R) (List.flatMap keys) := by
  intro as as' h
  induction h with
  | nil => exact fun hx => ⟨rfl, hx⟩
  | cons ha has ih =>
    intro x x' hx
    rw [List.flatMap_cons, List.flatMap_cons, List.append_assoc, List.append_assoc] at hx
    obtain ⟨rfl, hrest⟩ := hR ha hx
    obtain ⟨rfl, hbehind⟩ := ih hrest
    exact ⟨rfl, hbehind⟩

theorem decidedByKeys_parameter : DecidedByKeys Parameter.Spaced fun p => [p.name] := by
  rintro ⟨name, explicitType⟩ ⟨name', explicitType'⟩ h x x' hx
  obtain ⟨hname, hbehind⟩ := List.cons.inj hx
  have htype := h.explicitType_eq hname
  dsimp only at hname htype
  exact ⟨by rw [hname, htype], hbehind⟩

theorem decidedByKeys_function :
    DecidedByKeys Function.Spaced fun f => f.parameters.map Parameter.name := by
  rintro ⟨name, parameters, returnType, isLocal⟩ ⟨name', parameters', returnType', isLocal'⟩ h x x' hx
  have hnames : ∀ ps : List Parameter, ps.map Parameter.name = ps.flatMap fun p => [p.name] :=
    fun ps => List.map_eq_flatMap
  simp only [hnames] at hx
  obtain ⟨hparameters, hbehind⟩ := decidedByKeys_parameter.flatMap h.parameters hx
  obtain ⟨rfl, rfl, rfl, -⟩ := h
  exact ⟨congrArg (Function.mk _ · _ _) hparameters, hbehind⟩

theorem decidedByKeys_global : DecidedByKeys Global.Spaced fun g => keysOf g.fields := by
  rintro ⟨name, valueType, fields, explicitType, isLocal⟩ ⟨name', valueType', fields', explicitType', isLocal'⟩
    h x x' hx
  obtain ⟨hfields, hbehind⟩ := eq_of_keysOf h.fields hx
  obtain ⟨rfl, rfl, rfl, rfl, -⟩ := h
  exact ⟨congrArg (Global.mk _ _ · _ _) hfields, hbehind⟩

/-- Schemas that are equal up to spaces in keys and parameters are equal if these are. -/
theorem ParseResult.Spaced.eq_of_keys {r r' : ParseResult} (h : r.Spaced r') (hkeys : r.keys = r'.keys) :
    r = r' := by
  obtain ⟨fileName, functions, globals, errors⟩ := r
  obtain ⟨fileName', functions', globals', errors'⟩ := r'
  obtain ⟨rfl, rfl, hfunctions, hglobals⟩ := h
  obtain ⟨hf, hrest⟩ := decidedByKeys_function.flatMap hfunctions hkeys
  have hrest' := congrArg (· ++ []) hrest
  obtain ⟨hg, -⟩ := decidedByKeys_global.flatMap hglobals hrest'
  exact congrArg₂ (ParseResult.mk _ · · _) hf hg

/-! ## §5 Both sources -/

/-- **A block comment separates as a space does.** With a space for every block comment that opens and closes on
one line, a source declares the same, up to the spaces that come into keys and parameters; with the same keys and
parameters, the schema is the same. The spaces have to come between parts that are apart, and no line may become a
directive. -/
theorem parse_spacedSource {source : Text} (hseams : ∀ l ∈ lexedLines source, l.SeamsApart)
    (hrole : ∀ l ∈ lexedLines source, l.KeepsRole) (fileName : Text) :
    (parse source fileName).Spaced (parse (spacedSource source) fileName) ∧
      ((parse source fileName).keys = (parse (spacedSource source) fileName).keys →
        parse (spacedSource source) fileName = parse source fileName) := by
  have hmembers := spaced_extractMembers (scan_spacedSource hseams hrole) {}
  have hspaced : (parse source fileName).Spaced (parse (spacedSource source) fileName) :=
    ⟨rfl, rfl, spaced_memberFunctions hmembers, spaced_memberGlobals hmembers⟩
  exact ⟨hspaced, fun hkeys => (hspaced.eq_of_keys hkeys).symm⟩

/-- The keys of the fields in a content, entry by entry. -/
theorem keysOf_parseFields (content : Text) (types : Dictionary Text) :
    keysOf (parseFields content types) =
      (keyedEntries content).flatMap fun e => e.1 :: keysOf (annotatedField types e).fields := by
  rw [parseFields_eq_map]
  induction keyedEntries content with
  | nil => rfl
  | cons e es ih =>
    rw [List.map_cons, keysOf, ih]
    rfl

/-- A comment in a table, behind a key: the parts on its two sides are apart, the line is no directive, and the
key is the same in both sources. -/
theorem parse_spacedSource_field :
    (∀ l ∈ lexedLines r"t={a--[[c]]=1}".toList, l.SeamsApart) ∧
      (∀ l ∈ lexedLines r"t={a--[[c]]=1}".toList, l.KeepsRole) ∧
      spacedSource r"t={a--[[c]]=1}".toList = "t={a =1}".toList ∧
      parse "t={a =1}".toList [] = parse r"t={a--[[c]]=1}".toList [] := by
  have hlexed : lexedLines r"t={a--[[c]]=1}".toList =
      [⟨⟨.code, 0⟩, [⟨['t'], .code, ⟨.code, 0⟩⟩, ⟨['='], .code, ⟨.code, 0⟩⟩, ⟨['{'], .code, ⟨.code, 1⟩⟩,
        ⟨['a'], .code, ⟨.code, 1⟩⟩, ⟨"--[[".toList, .comment, ⟨.blockComment 0, 1⟩⟩,
        ⟨['c'], .comment, ⟨.blockComment 0, 1⟩⟩, ⟨[']', ']'], .comment, ⟨.code, 1⟩⟩,
        ⟨['='], .code, ⟨.code, 1⟩⟩, ⟨['1'], .code, ⟨.code, 1⟩⟩, ⟨['}'], .code, ⟨.code, 0⟩⟩]⟩] := by
    simp [lexedLines, lex, Position.next, Position.nextInCode, Position.nextInBrackets, Position.lexeme,
      isLineBreak, isQuote, bracketLevel, bracketCloser, depthBehind, cutAtLineEnds]
  have hspaced : spacedSource r"t={a--[[c]]=1}".toList = "t={a =1}".toList := by
    simp [spacedSource, lex, Position.next, Position.nextInCode, Position.nextInBrackets, Position.lexeme,
      isLineBreak, isQuote, bracketLevel, bracketCloser, depthBehind, pieces, Lexeme.opensComment,
      closesOnLine, Region.isBlockComment, textOf, Piece.lexeme]
  have hseams : ∀ l ∈ lexedLines r"t={a--[[c]]=1}".toList, l.SeamsApart := by
    rw [hlexed]
    exact List.forall_mem_singleton.2 (by decide)
  have hrole : ∀ l ∈ lexedLines r"t={a--[[c]]=1}".toList, l.KeepsRole := by
    rw [hlexed]
    exact List.forall_mem_singleton.2 (by decide)
  -- The content of the table is not the same in both sources, but its keyed entry is.
  have hkeys : ∀ content, keyedEntries content = [(['a'], ['1'])] →
      keysOf (parseFields content []) = [['a']] := by
    intro content hentries
    rw [keysOf_parseFields, hentries]
    rfl
  have hold : (parse r"t={a--[[c]]=1}".toList []).keys = keysOf (parseFields "a=1".toList []) ++ [] := rfl
  have hnew : (parse "t={a =1}".toList []).keys = keysOf (parseFields "a =1".toList []) ++ [] := rfl
  have hparse := (parse_spacedSource hseams hrole []).2
  rw [hspaced, hold, hnew, hkeys _ rfl, hkeys _ rfl] at hparse
  exact ⟨hseams, hrole, hspaced, hparse rfl⟩

/-- Neither condition can be left out, and neither can the one on keys: here a word is made up of two, a line
becomes a directive, and a space comes into a key. -/
theorem parse_spacedSource_ne :
    parse (spacedSource "local--[[ ]]x = 1".toList) [] ≠ parse "local--[[ ]]x = 1".toList [] ∧
    parse (spacedSource "--[[ ]]---@type string\nx = 1".toList) [] ≠
      parse "--[[ ]]---@type string\nx = 1".toList [] ∧
    parse (spacedSource r"t = { [1--[[ ]]] = 1 }".toList) [] ≠
      parse r"t = { [1--[[ ]]] = 1 }".toList [] := by
  have hspaced : spacedSource "local--[[ ]]x = 1".toList = "local x = 1".toList ∧
      spacedSource "--[[ ]]---@type string\nx = 1".toList = " ---@type string\nx = 1".toList ∧
      spacedSource r"t = { [1--[[ ]]] = 1 }".toList = "t = { [1 ] = 1 }".toList := by
    simp [spacedSource, lex, Position.next, Position.nextInCode, Position.nextInBrackets, Position.lexeme,
      isLineBreak, isQuote, bracketLevel, bracketCloser, depthBehind, pieces, Lexeme.opensComment,
      closesOnLine, Region.isBlockComment, textOf, Piece.lexeme, Region.afterLineEnd, Region.spansLines]
  obtain ⟨hword, hdirective, hkey⟩ := hspaced
  rw [hword, hdirective, hkey]
  refine ⟨fun h => ?_, fun h => ?_, fun h => ?_⟩
  · -- The variable is not local if no space stands behind the mark.
    have hnames := congrArg (fun r => r.globals.map Global.name) h
    revert hnames
    decide +kernel
  · have htypes := congrArg (fun r => r.globals.map Global.explicitType) h
    revert htypes
    decide +kernel
  · have hold : (parse r"t = { [1--[[ ]]] = 1 }".toList []).keys =
        keysOf (parseFields " [1] = 1 ".toList []) ++ [] := rfl
    have hnew : (parse "t = { [1 ] = 1 }".toList []).keys =
        keysOf (parseFields " [1 ] = 1 ".toList []) ++ [] := rfl
    have hkeys := congrArg ParseResult.keys h
    rw [hold, hnew, keysOf_parseFields, keysOf_parseFields] at hkeys
    cases hkeys

end LuaAccessors
