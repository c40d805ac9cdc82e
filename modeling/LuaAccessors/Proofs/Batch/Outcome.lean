import LuaAccessors.Batch
import Mathlib.Data.List.Basic

/-!
# Outcomes of a batch

A batch is its scripts put together: each script comes to an end of its own, whatever else is in the batch
and whatever was run before, and one finding sums the batch up.

- `Batch.aboutScripts`: the diagnostics of a batch that are about a single script;
- `Processed`, `processed_processScript`: what can become of a script;
- `sources_runBatchWith`, `aboutScripts_runBatchWith`: a batch, script by script;
- `Ending`, `existsUnique_ending`: how a script can end, and that it ends in one way only;
- `Batch.SummedUp`, `exists_summedUp`: the finding about the whole;
- `batch_of_outcomes`: all of it together.
-/

namespace LuaAccessors

/-! ## §1 Findings about a script -/

/-- The codes of what is reported of a single script. -/
def scriptCodes : List Text := ["LB001", "LB002", "LB005", "LB008", "LB009"]

/-- The finding is about a single script. -/
def Finding.isAboutScript (f : Finding) : Bool := scriptCodes.contains f.code

/-- The finding says something of a script that goes on. -/
def Finding.isRemark : Finding → Bool
  | .unparsable .. | .invalidSyntax .. | .memberSkipped .. => true
  | _ => false

/-- The codes of remarks. -/
def remarkCodes : List Text := ["LB002", "LB008", "LB009"]

/-- The diagnostics that are about a single script. -/
def Batch.aboutScripts (b : Batch) : List Diagnostic :=
  b.diagnostics.filter fun d => scriptCodes.contains d.code

/-- How many diagnostics have a code. -/
def Batch.count (b : Batch) (code : Text) : Nat := b.diagnostics.countP fun d => d.code == code

/-- A diagnostic has the code of its finding. -/
theorem Finding.contains_code_diagnostic (f : Finding) :
    scriptCodes.contains f.diagnostic.code = f.isAboutScript := rfl

theorem Finding.contains_code_of_isRemark {f : Finding} (h : f.isRemark = true) :
    remarkCodes.contains f.code = true := by
  cases f <;> first | rfl | cases h

theorem Finding.isAboutScript_of_isRemark {f : Finding} (h : f.isRemark = true) :
    f.isAboutScript = true := by
  cases f <;> first | rfl | cases h

/-- Diagnostics about scripts are counted among those about scripts. -/
theorem Batch.count_eq (b : Batch) {code : Text} (h : scriptCodes.contains code = true) :
    b.count code = b.aboutScripts.countP fun d => d.code == code := by
  rw [Batch.count, Batch.aboutScripts, List.countP_filter]
  apply List.countP_congr
  intro d _
  simp only [Bool.and_eq_true]
  constructor
  · intro hd
    rw [beq_iff_eq.1 hd]
    exact ⟨beq_self_eq_true _, h⟩
  · exact And.left

/-! ## §2 One script -/

/-- What can become of a script. -/
inductive Processed (s : Script) : ScriptOutcome → Prop where
  /-- Its text could not be read. -/
  | unreadable {reason : Text} (hread : s.readError = some reason) :
      Processed s { findings := [.unreadable s.path reason] }
  /-- It has no text, or an empty one. -/
  | empty (hread : s.readError = none) (htext : s.text.truthy = false) : Processed s {}
  /-- It declares nothing. -/
  | nothingExposed {remarks : List Finding} (hread : s.readError = none)
      (htext : s.text.truthy = true) (hremarks : ∀ f ∈ remarks, f.isRemark = true) :
      Processed s { findings := remarks ++ [.nothingExposed s.stem] }
  /-- A header is generated. -/
  | generated {source : GeneratedSource} {remarks : List Finding} (hread : s.readError = none)
      (htext : s.text.truthy = true) (hremarks : ∀ f ∈ remarks, f.isRemark = true) :
      Processed s { source := some source, findings := remarks }

/-- The validity check only makes remarks. -/
theorem isRemark_of_mem_syntaxFindingsWith {isValid : Text → Bool} {s : Script} {f : Finding}
    (h : f ∈ syntaxFindingsWith isValid s) : f.isRemark = true := by
  unfold syntaxFindingsWith at h
  split at h
  · split at h
    · cases h
    · rw [List.mem_singleton.1 h]
      rfl
  · cases h

/-- **Every script is processed** in one of these ways, whatever the settings are and whatever passes the
validity check. -/
theorem processed_processScript (isValid : Text → Bool) (settings : Settings) (s : Script) :
    Processed s (processScript isValid settings s) := by
  unfold processScript
  cases hread : s.readError with
  | some reason => exact .unreadable hread
  | none =>
    cases htext : s.text.truthy with
    | false => exact .empty hread htext
    | true =>
      have hbefore : ∀ f ∈ (if settings.checkSyntax then syntaxFindingsWith isValid s else [])
          ++ (parseValue s.text s.stem).errors.map (fun d => .unparsable s.path d.title d.message),
          f.isRemark = true := by
        intro f hf
        rcases List.mem_append.1 hf with hf | hf
        · split at hf
          · exact isRemark_of_mem_syntaxFindingsWith hf
          · cases hf
        · obtain ⟨d, -, rfl⟩ := List.mem_map.1 hf
          rfl
      simp only [Bool.not_true, Bool.false_eq_true, if_false]
      split
      · -- The members that are left out are remarked on as well.
        apply Processed.generated hread htext
        intro f hf
        rcases List.mem_append.1 hf with hf | hf
        · exact hbefore f hf
        · obtain ⟨name, -, rfl⟩ := List.mem_map.1 hf
          rfl
      · exact .nothingExposed hread htext hbefore

/-- All that is found of a script is about a script. -/
theorem Processed.isAboutScript {s : Script} {o : ScriptOutcome} (h : Processed s o) {f : Finding}
    (hf : f ∈ o.findings) : f.isAboutScript = true := by
  cases h with
  | unreadable hread =>
    rw [List.mem_singleton.1 hf]
    rfl
  | empty hread htext => cases hf
  | nothingExposed hread htext hremarks =>
    -- Remarks come before the finding that ends the script.
    rcases List.mem_append.1 hf with hf | hf
    · exact Finding.isAboutScript_of_isRemark (hremarks f hf)
    · rw [List.mem_singleton.1 hf]
      rfl
  | generated hread htext hremarks => exact Finding.isAboutScript_of_isRemark (hremarks f hf)

/-! ## §3 Batches, script by script

What a batch yields is put together from what it yields for single scripts, in their order. Only the findings
about the whole look at all of them.
-/

section Batches

variable (isValid : Text → Bool) (settings : Settings)

theorem eligible_append (xs ys : List Script) :
    eligible settings (xs ++ ys) = eligible settings xs ++ eligible settings ys :=
  List.filter_append _ _

/-- A batch has the headers of its scripts. -/
theorem sources_runBatchWith (scripts : List Script) :
    (runBatchWith isValid settings scripts).sources =
      (eligible settings scripts).filterMap fun s => (processScript isValid settings s).source :=
  List.filterMap_map

/-- What is found in front of the scripts is not about any of them. -/
theorem isAboutScript_of_mem_openingFindings {scripts : List Script} {f : Finding}
    (h : f ∈ openingFindings settings scripts) : f.isAboutScript = false := by
  unfold openingFindings at h
  dsimp only at h
  split at h
  · rw [List.mem_singleton.1 h]
    rfl
  · split at h
    · rw [List.mem_singleton.1 h]
      rfl
    · cases h

/-- What is found behind the scripts is not about any of them. -/
theorem isAboutScript_of_mem_closingFindings {count : Nat} {sources : List GeneratedSource}
    {f : Finding} (h : f ∈ closingFindings settings count sources) : f.isAboutScript = false := by
  unfold closingFindings at h
  split at h
  · split at h
    · cases h
    · rw [List.mem_singleton.1 h]
      rfl
  · rw [List.mem_singleton.1 h]
    rfl

/-- A batch reports of its scripts what is found of each. -/
theorem aboutScripts_runBatchWith (scripts : List Script) :
    (runBatchWith isValid settings scripts).aboutScripts =
      (eligible settings scripts).flatMap fun s =>
        (processScript isValid settings s).findings.map Finding.diagnostic := by
  have hopening : (openingFindings settings scripts).filter Finding.isAboutScript = [] := by
    rw [List.filter_eq_nil_iff]
    intro f hf
    simp [isAboutScript_of_mem_openingFindings settings hf]
  have hclosing : ∀ count sources,
      (closingFindings settings count sources).filter Finding.isAboutScript = [] := by
    intro count sources
    rw [List.filter_eq_nil_iff]
    intro f hf
    simp [isAboutScript_of_mem_closingFindings settings hf]
  have hscripts : ∀ s, (processScript isValid settings s).findings.filter Finding.isAboutScript =
      (processScript isValid settings s).findings := by
    intro s
    rw [List.filter_eq_self]
    exact fun f hf => (processed_processScript isValid settings s).isAboutScript hf
  -- The findings can be sorted out before they become diagnostics.
  have hcode : (fun d : Diagnostic => scriptCodes.contains d.code) ∘ Finding.diagnostic =
      Finding.isAboutScript := funext Finding.contains_code_diagnostic
  rw [Batch.aboutScripts, runBatchWith, List.filter_map, hcode]
  simp only [List.filter_append, hopening, hclosing, List.nil_append, List.append_nil,
    List.flatMap_map, List.filter_flatMap, hscripts, List.map_flatMap]

/-- The diagnostics of a batch: those in front of the scripts, those about them, those behind them. -/
theorem diagnostics_runBatchWith (scripts : List Script) :
    (runBatchWith isValid settings scripts).diagnostics =
      (openingFindings settings scripts).map Finding.diagnostic ++
        (runBatchWith isValid settings scripts).aboutScripts ++
        (closingFindings settings (eligible settings scripts).length
          (runBatchWith isValid settings scripts).sources).map Finding.diagnostic := by
  rw [aboutScripts_runBatchWith, runBatchWith, List.map_append, List.map_append, List.flatMap_map,
    List.map_flatMap]

/-- A batch of one script has the header that is generated of it. -/
theorem sources_singleton {s : Script} (hs : eligible settings [s] = [s]) :
    (runBatchWith isValid settings [s]).sources =
      (processScript isValid settings s).source.toList := by
  rw [sources_runBatchWith, hs]
  cases h : (processScript isValid settings s).source <;> simp [h]

theorem aboutScripts_singleton {s : Script} (hs : eligible settings [s] = [s]) :
    (runBatchWith isValid settings [s]).aboutScripts =
      (processScript isValid settings s).findings.map Finding.diagnostic := by
  rw [aboutScripts_runBatchWith, hs, List.flatMap_singleton]

/-- In a batch of one script its findings are counted. -/
theorem count_singleton {s : Script} (hs : eligible settings [s] = [s]) {code : Text}
    (hcode : scriptCodes.contains code = true) :
    (runBatchWith isValid settings [s]).count code =
      ((processScript isValid settings s).findings.map Finding.diagnostic).countP
        fun d => d.code == code := by
  rw [Batch.count_eq _ hcode, aboutScripts_singleton isValid settings hs]

/-- The headers of two lists of scripts are those of the first and then those of the second. -/
theorem sources_append (xs ys : List Script) :
    (runBatchWith isValid settings (xs ++ ys)).sources =
      (runBatchWith isValid settings xs).sources ++ (runBatchWith isValid settings ys).sources := by
  simp only [sources_runBatchWith, eligible_append, List.filterMap_append]

/-- So are the diagnostics about scripts. -/
theorem aboutScripts_append (xs ys : List Script) :
    (runBatchWith isValid settings (xs ++ ys)).aboutScripts =
      (runBatchWith isValid settings xs).aboutScripts ++
        (runBatchWith isValid settings ys).aboutScripts := by
  simp only [aboutScripts_runBatchWith, eligible_append, List.flatMap_append]

end Batches

/-! ## §4 Endings

A script ends in one of several ways, and what is read of it decides in which. The ways exclude each other.
-/

/-- The script has a text or none; its text is no other value. -/
def Script.HasText (s : Script) : Prop := s.text = .null ∨ ∃ t, s.text = .text t

/-- How a script can end. -/
inductive Ending where
  /-- With a header. -/
  | generated
  /-- With the report that it could not be read. -/
  | unreadable
  /-- With the report that it declares nothing. -/
  | nothingExposed
  /-- Without a word. -/
  | empty
  deriving DecidableEq

namespace Ending

/-- How many headers there are, and how many diagnostics of the codes `LB001` and `LB005`. -/
def counts : Ending → Nat × Nat × Nat
  | generated => (1, 0, 0)
  | unreadable => (0, 1, 0)
  | nothingExposed => (0, 0, 1)
  | empty => (0, 0, 0)

theorem counts_injective {e e' : Ending} (h : e.counts = e'.counts) : e = e' := by
  cases e <;> cases e' <;> first | rfl | cases h

/-- A batch of the script `s` alone shows this ending. -/
structure Holds (e : Ending) (s : Script) (b : Batch) : Prop where
  /-- What the batch has of each kind. -/
  counts_eq : (b.sources.length, b.count "LB001", b.count "LB005") = e.counts
  /-- Scripts that could not be read end so, and no others. -/
  unreadable_iff : e = unreadable ↔ s.readError ≠ none
  /-- Empty scripts end without a word, and no others. -/
  empty_iff : e = empty ↔ s.readError = none ∧ (s.text = .null ∨ s.text = .text [])
  /-- Without a word: nothing is reported of the script. -/
  silent : e = empty → b.aboutScripts = []

end Ending

/-- Texts that count as false are empty. -/
theorem Script.HasText.truthy_eq_false_iff {s : Script} (h : s.HasText) :
    s.text.truthy = false ↔ s.text = .null ∨ s.text = .text [] := by
  rcases h with h | ⟨t, h⟩
  · simp [h, Value.truthy]
  · cases t <;> simp [h, Value.truthy]

/-- Remarks have none of the codes that an ending is told by. -/
theorem countP_code_of_isRemark {remarks : List Finding} (h : ∀ f ∈ remarks, f.isRemark = true)
    {code : Text} (hcode : remarkCodes.contains code = false) :
    (remarks.map Finding.diagnostic).countP (fun d => d.code == code) = 0 := by
  rw [List.countP_eq_zero]
  intro d hd heq
  obtain ⟨f, hf, rfl⟩ := List.mem_map.1 hd
  have hcontains := Finding.contains_code_of_isRemark (h f hf)
  rw [show f.code = code from beq_iff_eq.1 heq, hcode] at hcontains
  cases hcontains

/-- **A script ends in one way only**: with a header, with the report that it could not be read, with the
report that it declares nothing, or, if it is empty, without a word. -/
theorem existsUnique_ending (isValid : Text → Bool) (settings : Settings) {s : Script}
    (htext : s.HasText) (hs : eligible settings [s] = [s]) :
    ∃! e : Ending, e.Holds s (runBatchWith isValid settings [s]) := by
  have hsources := sources_singleton isValid settings hs
  have habout := aboutScripts_singleton isValid settings hs
  have hunread := count_singleton isValid settings hs
    (by decide : scriptCodes.contains "LB001".toList = true)
  have hnothing := count_singleton isValid settings hs
    (by decide : scriptCodes.contains "LB005".toList = true)
  -- The counts tell the endings apart, so one that holds is the only one.
  suffices h : ∃ e : Ending, e.Holds s (runBatchWith isValid settings [s]) by
    obtain ⟨e, he⟩ := h
    refine ⟨e, he, ?_⟩
    intro e' he'
    exact Ending.counts_injective (he'.counts_eq.symm.trans he.counts_eq)
  -- Headers and counts are those of the outcome, which is one of four.
  have hprocessed := processed_processScript isValid settings s
  generalize processScript isValid settings s = o at hprocessed hsources habout hunread hnothing
  cases hprocessed with
  | unreadable hread =>
    refine ⟨.unreadable, ?_, by simp [hread], by simp [hread], by simp⟩
    rw [hsources, hunread, hnothing]
    rfl
  | empty hread hfalse =>
    refine ⟨.empty, ?_, by simp [hread], ?_, fun _ => habout⟩
    · rw [hsources, hunread, hnothing]
      rfl
    · simp [hread, htext.truthy_eq_false_iff.1 hfalse]
  | nothingExposed hread htrue hremarks =>
    refine ⟨.nothingExposed, ?_, by simp [hread], ?_, by simp⟩
    · rw [hsources, hunread, hnothing, List.map_append, List.countP_append, List.countP_append,
        countP_code_of_isRemark hremarks rfl, countP_code_of_isRemark hremarks rfl]
      rfl
    · rw [← htext.truthy_eq_false_iff]
      simp [htrue]
  | generated hread htrue hremarks =>
    refine ⟨.generated, ?_, by simp [hread], ?_, by simp⟩
    · rw [hsources, hunread, hnothing, countP_code_of_isRemark hremarks rfl,
        countP_code_of_isRemark hremarks rfl]
      rfl
    · rw [← htext.truthy_eq_false_iff]
      simp [htrue]

/-! ## §5 The batch as a whole -/

/-- One diagnostic `d` sums the batch of some scripts up. -/
inductive Batch.SummedUp (settings : Settings) (scripts : List Script) (b : Batch) (d : Diagnostic) :
    Prop where
  /-- There is no Lua script: nothing else is reported. -/
  | noLuaFiles (hlua : ∀ s ∈ scripts, s.isLua = false) (hcode : d.code = "LB003".toList)
      (hsources : b.sources = []) (halone : b.diagnostics = [d])
  /-- There are Lua scripts, but none in the directory: nothing else is reported. -/
  | outsideDirectory (hlua : ∃ s ∈ scripts, s.isLua = true) (hnone : eligible settings scripts = [])
      (hcode : d.code = "LB004".toList) (hsources : b.sources = []) (halone : b.diagnostics = [d])
  /-- Headers have been generated, which is reported last. -/
  | complete (hsources : b.sources ≠ []) (hcode : d.code = "LB006".toList)
      (hlast : b.diagnostics = b.aboutScripts ++ [d])
  /-- There are scripts in the directory, but no headers, which is reported last. -/
  | noTypes (hsome : eligible settings scripts ≠ []) (hsources : b.sources = [])
      (hcode : d.code = "LB007".toList) (hlast : b.diagnostics = b.aboutScripts ++ [d])

/-- **One diagnostic sums a batch up**; all others are about scripts. -/
theorem exists_summedUp (isValid : Text → Bool) (settings : Settings) (scripts : List Script) :
    ∃ d, (runBatchWith isValid settings scripts).SummedUp settings scripts d := by
  have hdiagnostics := diagnostics_runBatchWith isValid settings scripts
  have hsources := sources_runBatchWith isValid settings scripts
  have habout := aboutScripts_runBatchWith isValid settings scripts
  cases heligible : eligible settings scripts with
  | nil =>
    -- Without scripts to read there is nothing but the finding in front of them.
    rw [heligible] at hsources habout
    rw [hsources, habout, heligible] at hdiagnostics
    cases hlua : scripts.filter Script.isLua with
    | nil =>
      refine ⟨Finding.noLuaFiles.diagnostic, .noLuaFiles ?_ rfl hsources ?_⟩
      · simpa using hlua
      · rw [hdiagnostics]
        simp [openingFindings, hlua, closingFindings]
    | cons s rest =>
      refine ⟨(Finding.outsideDirectory (s :: rest).length settings.luaDirectory).diagnostic,
        .outsideDirectory ?_ heligible rfl hsources ?_⟩
      · have hs : s ∈ scripts.filter Script.isLua := hlua ▸ List.mem_cons_self
        exact ⟨s, (List.mem_filter.1 hs).1, (List.mem_filter.1 hs).2⟩
      · rw [hdiagnostics]
        simp [openingFindings, hlua, heligible, closingFindings]
  | cons s rest =>
    have hs : s ∈ scripts.filter Script.isLua := by
      have hs : s ∈ eligible settings scripts := heligible ▸ List.mem_cons_self
      obtain ⟨hmem, hcond⟩ := List.mem_filter.1 hs
      exact List.mem_filter.2 ⟨hmem, (Bool.and_eq_true_iff.1 hcond).1⟩
    have hopening : openingFindings settings scripts = [] := by
      simp [openingFindings, heligible, List.ne_nil_of_mem hs]
    -- So the diagnostics are those about scripts and the closing one, which tells by the headers.
    rw [hopening, List.map_nil, List.nil_append] at hdiagnostics
    cases hempty : (runBatchWith isValid settings scripts).sources with
    | nil =>
      refine ⟨(Finding.noTypes (s :: rest).length).diagnostic,
        .noTypes (by simp [heligible]) hempty rfl ?_⟩
      rw [hdiagnostics, hempty, heligible]
      rfl
    | cons source others =>
      refine ⟨(Finding.complete settings.namespaceName
        ((source :: others).map GeneratedSource.typeName)).diagnostic,
        .complete (by simp [hempty]) rfl ?_⟩
      rw [hdiagnostics, hempty]
      rfl

/-- The codes of diagnostics that sum a batch up. -/
def summaryCodes : List Text := ["LB003", "LB004", "LB006", "LB007"]

theorem Batch.SummedUp.contains_code {settings : Settings} {scripts : List Script} {b : Batch}
    {d : Diagnostic} (h : b.SummedUp settings scripts d) : summaryCodes.contains d.code = true := by
  cases h with
  | noLuaFiles hlua hcode => rw [hcode]; rfl
  | outsideDirectory hlua hnone hcode => rw [hcode]; rfl
  | complete hsources hcode => rw [hcode]; rfl
  | noTypes hsome hsources hcode => rw [hcode]; rfl

/-- Beside the one that sums it up a batch has diagnostics about scripts only. -/
theorem Batch.SummedUp.mem {settings : Settings} {scripts : List Script} {b : Batch}
    {d e : Diagnostic} (h : b.SummedUp settings scripts d) (he : e ∈ b.diagnostics) :
    e ∈ b.aboutScripts ∨ e = d := by
  cases h with
  | noLuaFiles hlua hcode hsources halone => exact .inr (List.mem_singleton.1 (halone ▸ he))
  | outsideDirectory hlua hnone hcode hsources halone =>
    exact .inr (List.mem_singleton.1 (halone ▸ he))
  | complete hsources hcode hlast => simpa [hlast] using he
  | noTypes hsome hsources hcode hlast => simpa [hlast] using he

/-- No batch of scripts reports an unexpected failure. -/
theorem Batch.SummedUp.code_ne {settings : Settings} {scripts : List Script} {b : Batch}
    {d e : Diagnostic} (h : b.SummedUp settings scripts d) (he : e ∈ b.diagnostics) :
    e.code ≠ "LB999".toList := by
  have hscript : scriptCodes.contains "LB999".toList = false := rfl
  have hsummary : summaryCodes.contains "LB999".toList = false := rfl
  intro hcode
  -- A diagnostic is about a script, or it is the last one, and both kinds have codes of their own.
  rcases h.mem he with he | rfl
  · have hcontains := (List.mem_filter.1 he).2
    rw [hcode, hscript] at hcontains
    cases hcontains
  · have hcontains := h.contains_code
    rw [hcode, hsummary] at hcontains
    cases hcontains

/-! ## §6 Batches without errors

Only values of a wrong type are reported as errors, and those of a script that has been read are of the right
ones. -/

/-- Nothing that is said about a script is an error. -/
theorem Finding.severity_ne_error_of_isAboutScript {f : Finding} (h : f.isAboutScript = true) :
    f.severity ≠ .error := by
  intro herror
  cases f with
  | wrongType typeName method => cases h
  | _ => cases herror

theorem severity_ne_error_of_mem_openingFindings {settings : Settings} {scripts : List Script}
    {f : Finding} (h : f ∈ openingFindings settings scripts) : f.severity ≠ .error := by
  unfold openingFindings at h
  dsimp only at h
  split at h
  · simp [List.mem_singleton.1 h, Finding.severity]
  · split at h
    · simp [List.mem_singleton.1 h, Finding.severity]
    · cases h

theorem severity_ne_error_of_mem_closingFindings {settings : Settings} {count : Nat}
    {sources : List GeneratedSource} {f : Finding} (h : f ∈ closingFindings settings count sources) :
    f.severity ≠ .error := by
  unfold closingFindings at h
  split at h
  · split at h
    · cases h
    · simp [List.mem_singleton.1 h, Finding.severity]
  · simp [List.mem_singleton.1 h, Finding.severity]

/-- **No script makes a batch fail**, whatever it holds. -/
theorem hasErrors_runBatchWith (isValid : Text → Bool) (settings : Settings) (scripts : List Script) :
    (runBatchWith isValid settings scripts).hasErrors = false := by
  simp only [Batch.hasErrors, List.any_eq_false, runBatchWith, List.mem_map, List.mem_append, beq_iff_eq]
  rintro d ⟨f, (hf | hf) | hf, rfl⟩
  · exact severity_ne_error_of_mem_openingFindings hf
  · obtain ⟨outcome, houtcome, hf⟩ := List.mem_flatMap.1 hf
    obtain ⟨s, -, rfl⟩ := List.mem_map.1 houtcome
    have habout := (processed_processScript isValid settings s).isAboutScript hf
    exact Finding.severity_ne_error_of_isAboutScript habout
  · exact severity_ne_error_of_mem_closingFindings hf

/-! ## §7 Batches one after the other -/

/-- A script as one whose values could be of any type. -/
def Candidate.ofScript (s : Script) : Candidate :=
  { path := .text s.path, text := s.text, readError := s.readError }

theorem scriptsOf_map_ofScript (scripts : List Script) :
    scriptsOf (scripts.map .ofScript) = .ok scripts := by
  induction scripts with
  | nil => rfl
  | cons s rest ih =>
    simp only [List.map_cons, scriptsOf, Candidate.ofScript] at ih ⊢
    rw [ih]
    rfl

/-- Scripts whose paths are texts are run as they are. -/
theorem runCandidatesWith_ofScript (isValid : Text → Bool) (settings : Settings)
    (scripts : List Script) :
    runCandidatesWith isValid (.ofSettings settings) (scripts.map .ofScript) =
      runBatchWith isValid settings scripts := by
  rw [runCandidatesWith, scriptsOf_map_ofScript]
  rfl

/-- **A batch is its scripts put together.** Whatever was run before and whatever passes the validity check,
the headers of a batch, and what it reports of single scripts, are those of its parts one after the other;
each script that is read ends in one way only; and one diagnostic sums the batch up, beside which there are
only diagnostics about scripts. -/
theorem batch_of_outcomes (isValid : Text → Bool) (settings : Settings)
    (earlier : List (List Candidate)) {xs ys : List Script} (htext : ∀ s ∈ xs ++ ys, s.HasText) :
    (runBatchesWith isValid (.ofSettings settings)
      (earlier ++ [(xs ++ ys).map .ofScript])).getLast? =
        some (runBatchWith isValid settings (xs ++ ys)) ∧
    (runBatchWith isValid settings (xs ++ ys)).sources =
      (runBatchWith isValid settings xs).sources ++ (runBatchWith isValid settings ys).sources ∧
    (runBatchWith isValid settings (xs ++ ys)).aboutScripts =
      (runBatchWith isValid settings xs).aboutScripts ++
        (runBatchWith isValid settings ys).aboutScripts ∧
    (∀ s ∈ eligible settings (xs ++ ys),
      ∃! e : Ending, e.Holds s (runBatchWith isValid settings [s])) ∧
    (∃ d, (runBatchWith isValid settings (xs ++ ys)).SummedUp settings (xs ++ ys) d) ∧
    ∀ d ∈ (runBatchWith isValid settings (xs ++ ys)).diagnostics, d.code ≠ "LB999".toList := by
  obtain ⟨d, hd⟩ := exists_summedUp isValid settings (xs ++ ys)
  refine ⟨?_, sources_append isValid settings xs ys, aboutScripts_append isValid settings xs ys, ?_,
    ⟨d, hd⟩, fun e he => hd.code_ne he⟩
  · rw [runBatchesWith, List.map_append, List.map_singleton, runCandidatesWith_ofScript,
      List.getLast?_concat]
  · -- A script that is read in this batch would be read if it were alone.
    intro s hs
    obtain ⟨hmem, hchosen⟩ := List.mem_filter.1 hs
    apply existsUnique_ending isValid settings (htext s hmem)
    exact List.filter_cons_of_pos hchosen

/-- A Lua script that could not be read. -/
def unreadableScript : Script := { path := "bad.lua", readError := some "no text" }

/-- A file that is no Lua script. -/
def textFile : Script := { path := "readme.txt", text := .text "hello" }

/-- A script that could not be read is the only one in its batch that is reported, behind a batch that has
failed and beside a file that is no script. -/
theorem unreadable_beside_textFile :
    (∀ s ∈ [unreadableScript] ++ [textFile], s.HasText) ∧
      (∃! e : Ending, e.Holds unreadableScript
        (runBatchWith (fun _ => true) {} [unreadableScript])) ∧
      (runBatchWith (fun _ => true) {} ([unreadableScript] ++ [textFile])).aboutScripts =
        [(Finding.unreadable "bad.lua" "no text").diagnostic] := by
  have htext : ∀ s ∈ [unreadableScript] ++ [textFile], s.HasText := by
    intro s hs
    rcases List.mem_append.1 hs with hs | hs
    · exact .inl (by rw [List.mem_singleton.1 hs]; rfl)
    · exact .inr ⟨_, by rw [List.mem_singleton.1 hs]; rfl⟩
  obtain ⟨-, -, habout, hendings, -, -⟩ :=
    batch_of_outcomes (fun _ => true) {} [[{ path := .null, text := .null }]] htext
  refine ⟨htext, hendings _ ?_, habout.trans (by decide +kernel)⟩
  exact List.mem_filter.2 ⟨List.mem_cons_self, by decide +kernel⟩

end LuaAccessors
