import LuaAccessors.Batch
import LuaAccessors.Proofs.Cpp.PublicNames

/-!
# Members that are left out

No member goes missing without a word. In each class the exposed members split into those that it declares
and those that it leaves out; the latter are what the header reports as skipped, and of each the batch makes
one diagnostic.

- `Cpp.HeaderClass.splits`: the members of one class;
- `Script.schema?`, `skipped_processScript`: what one script reports as skipped;
- `skipped_runBatchWith`: what a batch reports under the code `LB009`;
- `members_declared_or_reported`: all of it together.
-/

namespace LuaAccessors

open Cpp

/-! ## §1 Members of a class -/

namespace Cpp.HeaderClass

/-- A class has each of its exposed members once. -/
theorem nodup_candidates (c : HeaderClass) : c.candidates.Nodup := by
  have hexposed : ∀ members : List Member, (exposed members).Nodup := fun members =>
    (nodup_exposed members).of_map
  cases c with
  | script r =>
    refine List.nodup_append'.2 ⟨hexposed _, hexposed _, ?_⟩
    -- No function is a variable.
    intro m hfunction hglobal
    obtain ⟨f, -, rfl⟩ := List.mem_map.1 (mem_of_mem_exposed hfunction)
    obtain ⟨g, -, h⟩ := List.mem_map.1 (mem_of_mem_exposed hglobal)
    cases h
  | wrapper scope luaName fields => exact hexposed _

/-- The exposed members of a class are declared or left out. -/
theorem splits (c : HeaderClass) : Splits c.reserved c.candidates c.declared c.leftOut :=
  splits_claim c.nodup_candidates

end Cpp.HeaderClass

/-! ## §2 Findings of a script

Of the findings about a script only those that report members are of interest here. They stand at the end.
-/

/-- The finding is about a member that is left out. -/
def Finding.isSkip : Finding → Bool
  | .memberSkipped _ _ => true
  | _ => false

/-- Only members that are left out are reported under the code `LB009`. -/
theorem Finding.code_diagnostic_eq (f : Finding) :
    (f.diagnostic.code == "LB009".toList) = f.isSkip := by
  cases f <;> rfl

/-- The schema that a header is generated from: none if the script cannot be read, is empty or declares
nothing. -/
def Script.schema? (s : Script) : Option ParseResult :=
  let r := parseValue s.text s.stem
  if s.readError = none ∧ s.text.truthy = true ∧ r.hasExposedMembers = true then some r else none

/-- What is reported as skipped from a script. -/
def skippedFindings (s : Script) : List Finding :=
  match s.schema? with
  | none => []
  | some r => (ScriptClass.ofResult r).skipped.map fun name => .memberSkipped name s.stem

/-- Neither the validity check nor a failed reading is about members that are left out. -/
theorem filter_isSkip_before (isValid : Text → Bool) (settings : Settings) (s : Script)
    (errors : List Diagnostic) :
    ((if settings.checkSyntax then syntaxFindingsWith isValid s else [])
      ++ errors.map fun d => Finding.unparsable s.path d.title d.message).filter Finding.isSkip =
      [] := by
  -- Both parts are about texts that cannot be read, not about members.
  have hcheck : ∀ f ∈ syntaxFindingsWith isValid s, f.isSkip = false := by
    intro f hf
    unfold syntaxFindingsWith at hf
    split at hf
    · split at hf
      · cases hf
      · rw [List.mem_singleton.1 hf]
        rfl
    · cases hf
  rw [List.filter_eq_nil_iff]
  intro f hf
  rcases List.mem_append.1 hf with hf | hf
  · split at hf
    · simp [hcheck f hf]
    · cases hf
  · obtain ⟨d, -, rfl⟩ := List.mem_map.1 hf
    exact Bool.false_ne_true

/-- A script reports each member that the classes of its header leave out, and no other. -/
theorem skipped_processScript (isValid : Text → Bool) (settings : Settings) (s : Script) :
    (processScript isValid settings s).findings.filter Finding.isSkip = skippedFindings s := by
  unfold processScript skippedFindings Script.schema?
  -- A script that is not read, that is empty, or whose members are all local leaves nothing out.
  cases hread : s.readError with
  | some reason => rfl
  | none =>
    cases htext : s.text.truthy with
    | false => rfl
    | true =>
      simp only [Bool.not_true, Bool.false_eq_true, if_false]
      rw [List.filter_append, filter_isSkip_before, List.nil_append]
      cases hexposed : (parseValue s.text s.stem).hasExposedMembers with
      | false => rfl
      | true =>
        simp only [if_true, and_self, generateSource]
        rw [List.filter_eq_self]
        intro f hf
        obtain ⟨name, -, rfl⟩ := List.mem_map.1 hf
        rfl

/-! ## §3 Diagnostics of a batch -/

/-- What a batch reports under the code `LB009`. -/
def Batch.skipped (b : Batch) : List Diagnostic :=
  b.diagnostics.filter fun d => d.code == "LB009".toList

/-- **A batch reports the members that are left out**, script by script, and each once. -/
theorem skipped_runBatchWith (isValid : Text → Bool) (settings : Settings) (scripts : List Script) :
    (runBatchWith isValid settings scripts).skipped =
      (eligible settings scripts).flatMap fun s => (skippedFindings s).map Finding.diagnostic := by
  -- What is found in front of the scripts and behind them is about the batch.
  have hopening : (openingFindings settings scripts).filter Finding.isSkip = [] := by
    unfold openingFindings
    dsimp only
    split
    · rfl
    · split <;> rfl
  have hclosing : ∀ count sources,
      (closingFindings settings count sources).filter Finding.isSkip = [] := by
    intro count sources
    unfold closingFindings
    split
    · split <;> rfl
    · rfl
  have hcode : (fun d : Diagnostic => d.code == "LB009".toList) ∘ Finding.diagnostic =
      Finding.isSkip := funext Finding.code_diagnostic_eq
  rw [Batch.skipped, runBatchWith, List.filter_map, hcode]
  simp only [List.filter_append, hopening, hclosing, List.nil_append, List.append_nil,
    List.flatMap_map, List.filter_flatMap, skipped_processScript, List.map_flatMap]

/-! ## §4 Members and reports -/

/-- What a header has of one of its classes. -/
structure Cpp.HeaderClass.Written (r : ParseResult) (c : HeaderClass) : Prop where
  /-- The class stands in the header, one level to the right for each table that leads to it. -/
  within_header : (indent^[c.path.length]) c.lines <:+: scriptClassLines (.ofResult r)
  /-- What it opens are the classes for its tables, which are classes of the header again. -/
  inner : innerNames c.lines = c.tables.map HeaderClass.ownName ∧ ∀ d ∈ c.tables, d ∈ classes r
  /-- Its exposed members are declared or left out. -/
  splits : Splits c.reserved c.candidates c.declared c.leftOut
  /-- The declared members come with their methods, in their order. -/
  methods : methodNames c.lines = c.declared.flatMap Member.methodNames ++ c.builtIn
  /-- No method is declared twice. -/
  methods_nodup : (methodNames c.lines).Nodup

/-- **No member is lost silently, and none is left out needlessly.** In every class of a header the exposed
members split into those that it declares, each with its methods, and those that it leaves out. The latter
are reported as skipped, class by class and with the path of the tables around them, and a batch makes one
diagnostic of each, whatever passes the validity check. -/
theorem members_declared_or_reported (r : ParseResult) :
    (∀ c ∈ classes r, HeaderClass.Written r c) ∧
    (ScriptClass.ofResult r).skipped =
      ((classes r).flatMap fun c => c.leftOut.map fun m => Text.join ['.'] (c.path ++ [m.name])) ∧
    ∀ (isValid : Text → Bool) (settings : Settings) (scripts : List Script),
      (runBatchWith isValid settings scripts).diagnostics.filter (·.code == "LB009".toList) =
        (eligible settings scripts).flatMap fun s =>
          match s.schema? with
          | none => []
          | some schema => (ScriptClass.ofResult schema).skipped.map fun name =>
            (Finding.memberSkipped name s.stem).diagnostic := by
  refine ⟨?_, skipped_eq r, ?_⟩
  · intro c hc
    -- The classes for the tables of a class are classes of the header themselves.
    have hinner : ∀ d ∈ c.tables, d ∈ classes r := fun d hd =>
      HeaderClass.mem_withInner_of_mem_tables hc hd
    exact {
      within_header := class_within_header hc
      inner := ⟨c.innerNames_lines, hinner⟩
      splits := c.splits
      methods := c.methodNames_lines
      methods_nodup := c.nodup_methodNames }
  · intro isValid settings scripts
    -- The reports of a batch are those of its scripts, one script after the other.
    rw [← Batch.skipped, skipped_runBatchWith]
    apply List.flatMap_congr
    intro s _
    unfold skippedFindings
    cases s.schema? with
    | none => rfl
    | some r => exact List.map_map

/-- A table that wants the names of a function is left out and reported. -/
theorem config_left_out :
    .script clashingScript ∈ classes clashingScript ∧
      methodNames (HeaderClass.script clashingScript).lines =
        ["ConfigTable".toList, "Player".toList] ∧
      (ScriptClass.ofResult clashingScript).skipped = ["config".toList] := by
  obtain ⟨hclasses, hskipped, -⟩ := members_declared_or_reported clashingScript
  have hscript : .script clashingScript ∈ classes clashingScript := HeaderClass.self_mem_withInner _
  refine ⟨hscript, ?_, ?_⟩
  · exact (hclasses _ hscript).methods.trans rfl
  · rw [hskipped, classes_clashingScript]
    rfl

end LuaAccessors
