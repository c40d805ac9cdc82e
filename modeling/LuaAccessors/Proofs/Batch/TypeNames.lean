import LuaAccessors.Proofs.Batch.Outcome
import LuaAccessors.Proofs.Cpp.Name

/-!
# Type names of a batch

The class for a script is called by the stem of its path, whatever stands there. Letter case makes letters of
letters, mostly, and leaves all else as it is. So the name can be declared if the stem could be, but for digits
behind underscores; and a hyphen, a point or a space in a stem goes into the name.

- `NamesClass`: what the stem of a script must be like;
- `isIdentifier_scriptClassName_iff`: when the name of the class can be declared;
- `namesClass_iff_of_ascii`: stems of ASCII characters;
- `isIdentifier_typeName_iff`: the type names of a batch;
- `not_every_typeName_isIdentifier`: a batch with a name that cannot be declared.
-/

namespace LuaAccessors.Cpp

/-! ## §1 Letter case of letters and digits -/

theorem upperChar_ne_nil (c : Char) : upperChar c ≠ [] := by
  have hexpansions : ∀ e ∈ upperExpansions, e.2 ≠ [] := by decide
  unfold upperChar
  split
  · simp
  · unfold mapCase
    split
    · rename_i ns hns
      obtain ⟨e, he, rfl⟩ := exists_mem_of_lookup hns
      simpa using hexpansions e he
    · simp

/-- Both small forms of a capital sigma are letters, so the form of a text is made of letters and digits exactly
if the forms of its characters are. -/
theorem forall_mem_lower_iff {t : Text} :
    (∀ d ∈ lower t, isAlphanumeric d = true) ↔ ∀ c ∈ t, ∀ d ∈ lowerChar c, isAlphanumeric d = true := by
  have hfinal : isAlphanumeric 'ς' = true := by decide +kernel
  have hsigma : ∀ d ∈ lowerChar 'Σ', isAlphanumeric d = true :=
    List.all_eq_true.1 (by decide +kernel)
  -- What stands in front decides which form a sigma has, so it is left free.
  have hafter : ∀ before, (∀ d ∈ lowerAfter before t, isAlphanumeric d = true) ↔
      ∀ c ∈ t, ∀ d ∈ lowerChar c, isAlphanumeric d = true := by
    induction t with
    | nil => simp [lowerAfter]
    | cons c t ih =>
      intro before
      rw [lowerAfter, List.forall_mem_append, ih, List.forall_mem_cons]
      apply and_congr_left'
      split
      · rename_i hc
        rw [hc.1]
        simp only [List.mem_singleton, forall_eq, hfinal, true_iff]
        exact hsigma
      · rfl
  exact hafter []

/-- On ASCII characters letter case keeps letters and digits, and makes none. -/
theorem case_of_ascii {c : Char} (h : c.toNat < 0x80) :
    ((∀ d ∈ upperChar c, isAlphanumeric d = true) ↔ c.isAlphanum = true) ∧
      ((∀ d ∈ lowerChar c, isAlphanumeric d = true) ↔ c.isAlphanum = true) ∧
      ((∀ d ∈ (upperChar c).head?, isDigit d = false) ↔ c.isDigit = false) := by
  have htable : ∀ n < 0x80,
      isAlphanumeric (Char.ofNat n).toUpper = (Char.ofNat n).isAlphanum ∧
      isAlphanumeric (Char.ofNat n).toLower = (Char.ofNat n).isAlphanum ∧
      isDigit (Char.ofNat n).toUpper = (Char.ofNat n).isDigit := by decide
  have hc := htable c.toNat h
  rw [Char.ofNat_toNat] at hc
  simp [upperChar, lowerChar, h, hc]

/-! ## §2 Pieces of a name -/

/-- The first piece starts with the first character that is no underscore. -/
theorem head?_segments (name : Text) :
    (segments name).head?.bind List.head? = name.find? (· != '_') := by
  induction name with
  | nil => rfl
  | cons c name ih =>
    cases hc : c != '_' with
    | false =>
      have hskip : segments (c :: name) = segments name := runs_cons (p := (· != '_')) hc name
      rw [hskip, ih, List.find?_cons, hc]
    | true =>
      obtain ⟨run, others, hruns⟩ := exists_runs_cons (p := (· != '_')) hc name
      have hpieces : segments (c :: name) = (c :: run) :: others := hruns
      rw [hpieces, List.find?_cons, hc]
      rfl

/-- The name with capitals starts with the capital form of that character. -/
theorem head?_pascalCase (name : Text) :
    (pascalCase name).head? = (name.find? (· != '_')).bind fun c => (upperChar c).head? := by
  rw [← head?_segments, pascalCase]
  cases hsegments : segments name with
  | nil => rfl
  | cons piece others =>
    have hpiece := (of_mem_runs (p := (· != '_')) (t := name) (hsegments ▸ List.mem_cons_self)).1
    obtain ⟨c, rest, rfl⟩ := List.exists_cons_of_ne_nil hpiece
    obtain ⟨d, form, hform⟩ := List.exists_cons_of_ne_nil (upperChar_ne_nil c)
    simp [capitalize, hform]

/-! ## §3 The class for a script

The name of a class keeps the characters of the stem that are no underscores. So it is an identifier exactly if
these may stand in one.
-/

/-- The stem of a script whose class can be declared. -/
structure NamesClass (stem : Text) : Prop where
  /-- The first character that is no underscore is no digit in its capital form. -/
  opening : ∀ c ∈ stem.find? (· != '_'), ∀ d ∈ (upperChar c).head?, isDigit d = false
  /-- The first characters of all pieces are letters and digits in their capital forms. -/
  capitals : ∀ piece ∈ segments stem, ∀ c ∈ piece.head?, ∀ d ∈ upperChar c, isAlphanumeric d = true
  /-- The other characters of all pieces are letters and digits in their small forms. -/
  smalls : ∀ piece ∈ segments stem, ∀ c ∈ piece.tail, ∀ d ∈ lowerChar c, isAlphanumeric d = true

/-- A name with a word behind it can be declared if the name could be; the name may be empty. -/
theorem isIdentifier_append_script (name : Text) :
    isIdentifier (name ++ "Script".toList) = true ↔
      (∀ d ∈ name.head?, isDigit d = false) ∧ ∀ d ∈ name, isAlphanumeric d = true ∨ d = '_' := by
  have hscript : "Script".toList.all (fun d => isAlphanumeric d || d == '_') = true := by decide
  cases name with
  | nil => exact iff_of_true rfl (by simp)
  | cons c name =>
    rw [List.cons_append, isIdentifier, ← List.cons_append, List.all_append, hscript]
    simp

/-- What the name with capitals is made of. -/
theorem forall_mem_pascalCase_iff (name : Text) :
    (∀ d ∈ pascalCase name, isAlphanumeric d = true) ↔
      ∀ piece ∈ segments name, (∀ c ∈ piece.head?, ∀ d ∈ upperChar c, isAlphanumeric d = true) ∧
        ∀ c ∈ piece.tail, ∀ d ∈ lowerChar c, isAlphanumeric d = true := by
  -- Of each piece the first character is made large and the others are made small.
  have hpiece : ∀ piece : Text, (∀ d ∈ capitalize piece, isAlphanumeric d = true) ↔
      (∀ c ∈ piece.head?, ∀ d ∈ upperChar c, isAlphanumeric d = true) ∧
        ∀ c ∈ piece.tail, ∀ d ∈ lowerChar c, isAlphanumeric d = true := by
    intro piece
    cases piece with
    | nil => simp [capitalize]
    | cons c rest => simp [capitalize, or_imp, forall_and, forall_mem_lower_iff]
  rw [pascalCase, List.forall_mem_flatMap]
  exact forall₂_congr fun piece _ => hpiece piece

/-- **When the class for a script can be declared.** -/
theorem isIdentifier_scriptClassName_iff (stem : Text) :
    isIdentifier (scriptClassName stem) = true ↔ NamesClass stem := by
  -- The underscores of the stem are gone, so the name has none.
  have hletters : (∀ d ∈ pascalCase stem, isAlphanumeric d = true ∨ d = '_') ↔
      ∀ d ∈ pascalCase stem, isAlphanumeric d = true := by
    refine forall₂_congr fun d hd => or_iff_left ?_
    rintro rfl
    exact underscore_not_mem_pascalCase stem hd
  have hopening : (∀ d ∈ (pascalCase stem).head?, isDigit d = false) ↔
      ∀ c ∈ stem.find? (· != '_'), ∀ d ∈ (upperChar c).head?, isDigit d = false := by
    rw [head?_pascalCase]
    cases stem.find? (· != '_') <;> simp
  rw [scriptClassName, isIdentifier_append_script, hletters, hopening, forall_mem_pascalCase_iff]
  constructor
  · rintro ⟨hopening, hpieces⟩
    exact ⟨hopening, fun piece h => (hpieces piece h).1, fun piece h => (hpieces piece h).2⟩
  · intro h
    exact ⟨h.opening, fun piece hpiece => ⟨h.capitals piece hpiece, h.smalls piece hpiece⟩⟩

/-- **Stems of ASCII characters** name a class if they are made of letters, digits and underscores and the first
that is no underscore is no digit. -/
theorem namesClass_iff_of_ascii {stem : Text} (h : ∀ c ∈ stem, c.toNat < 0x80) :
    NamesClass stem ↔
      (∀ c ∈ stem, isNamePart c = true) ∧ ∀ c ∈ stem.find? (· != '_'), c.isDigit = false := by
  -- The pieces are made of all characters but underscores.
  have hpiece : ∀ piece ∈ segments stem, ∀ c ∈ piece, c ∈ stem ∧ c ≠ '_' := fun piece hpiece c hc => by
    simpa using (of_mem_runs hpiece).2 c hc
  have hfirst : ∀ c ∈ stem.find? (· != '_'), c ∈ stem := fun c hc => List.mem_of_find?_eq_some hc
  constructor
  · intro hnames
    refine ⟨fun c hc => ?_, fun c hc => (case_of_ascii (h c (hfirst c hc))).2.2.1 (hnames.opening c hc)⟩
    by_cases hunderscore : c = '_'
    · rw [hunderscore]
      rfl
    · have halnum : c.isAlphanum = true := by
        obtain ⟨piece, hmem, hcp⟩ := exists_mem_runs (p := (· != '_')) hc (by simpa using hunderscore)
        cases piece with
        | nil => cases hcp
        | cons first rest =>
          rcases List.mem_cons.1 hcp with rfl | hrest
          · exact (case_of_ascii (h c hc)).1.1 (hnames.capitals _ hmem c rfl)
          · exact (case_of_ascii (h c hc)).2.1.1 (hnames.smalls _ hmem c hrest)
      simp [isNamePart, halnum]
  · rintro ⟨hall, hdigit⟩
    have halnum : ∀ piece ∈ segments stem, ∀ c ∈ piece, c.toNat < 0x80 ∧ c.isAlphanum = true := by
      intro piece hmem c hc
      obtain ⟨hstem, hunderscore⟩ := hpiece piece hmem c hc
      refine ⟨h c hstem, ?_⟩
      simpa [isNamePart, hunderscore] using hall c hstem
    constructor
    case opening =>
      intro c hc
      exact (case_of_ascii (h c (hfirst c hc))).2.2.2 (hdigit c hc)
    case capitals =>
      intro piece hmem c hc
      obtain ⟨hascii, hc⟩ := halnum piece hmem c (List.mem_of_mem_head? hc)
      exact (case_of_ascii hascii).1.2 hc
    case smalls =>
      intro piece hmem c hc
      obtain ⟨hascii, hc⟩ := halnum piece hmem c (List.mem_of_mem_tail hc)
      exact (case_of_ascii hascii).2.1.2 hc

end LuaAccessors.Cpp

namespace LuaAccessors

open Cpp

/-! ## §4 Batches -/

/-- What is generated of a script is called by its stem. -/
theorem names_processScript {isValid : Text → Bool} {settings : Settings} {s : Script}
    {source : GeneratedSource} (h : (processScript isValid settings s).source = some source) :
    source.hintName = outputFileName s.stem ∧ source.typeName = scriptClassName s.stem ∧
      source.sourcePath = s.path := by
  unfold processScript at h
  split at h
  · cases h
  split at h
  · cases h
  dsimp only at h
  split at h
  · have hstem := fileName_parseValue s.text s.stem
    rw [← Option.some.inj h]
    exact ⟨congrArg outputFileName hstem, congrArg scriptClassName hstem, rfl⟩
  · cases h

theorem exists_script_of_mem_sources {isValid : Text → Bool} {settings : Settings} {scripts : List Script}
    {source : GeneratedSource} (h : source ∈ (runBatchWith isValid settings scripts).sources) :
    ∃ s ∈ scripts, s.isLua = true ∧ source.hintName = outputFileName s.stem ∧
      source.typeName = scriptClassName s.stem ∧ source.sourcePath = s.path := by
  obtain ⟨outcome, houtcome, hsource⟩ := List.mem_filterMap.1 h
  obtain ⟨s, hs, rfl⟩ := List.mem_map.1 houtcome
  obtain ⟨hmem, hchosen⟩ := List.mem_filter.1 hs
  exact ⟨s, hmem, (Bool.and_eq_true_iff.1 hchosen).1, names_processScript hsource⟩

/-- The scripts of a batch are those that have been handed in. -/
theorem mem_of_scriptsOf {candidates : List Candidate} {scripts : List Script}
    (h : scriptsOf candidates = .ok scripts) {s : Script} (hs : s ∈ scripts) :
    Candidate.ofScript s ∈ candidates := by
  induction candidates generalizing scripts with
  | nil =>
    rw [← Except.ok.inj h] at hs
    cases hs
  | cons c rest ih =>
    rw [scriptsOf] at h
    split at h
    · -- A script has been made of the first candidate and of the others, if these are scripts, too.
      rename_i path hpath
      cases hrest : scriptsOf rest with
      | error e => simp [hrest, Except.map] at h
      | ok others =>
        rw [hrest] at h
        rw [← Except.ok.inj h] at hs
        rcases List.mem_cons.1 hs with rfl | hs
        · apply List.mem_cons.2
          left
          cases c
          simp_all [Candidate.ofScript]
        · exact List.mem_cons_of_mem _ (ih hrest hs)
    · -- With a path that is no text nothing has been made.
      cases h

/-- A batch of candidates is a batch of scripts with some settings, or has no headers. -/
theorem exists_of_mem_candidateSources {isValid : Text → Bool} {settings : CandidateSettings}
    {candidates : List Candidate} {source : GeneratedSource}
    (h : source ∈ (runCandidatesWith isValid settings candidates).sources) :
    ∃ scripts settings', scriptsOf candidates = .ok scripts ∧
      source ∈ (runBatchWith isValid settings' scripts).sources := by
  unfold runCandidatesWith at h
  split at h
  · cases h
  · rename_i scripts hscripts
    refine ⟨scripts, ?_⟩
    dsimp only at h
    -- Where the directory is no text and there is a Lua script, nothing is generated.
    split at h
    · exact ⟨_, hscripts, h⟩
    · split at h
      · cases h
      · exact ⟨_, hscripts, h⟩

/-- **Type names of a batch.** Every header comes from a Lua script that has been handed in and is called by its
stem, whatever stands there; the name can be declared exactly if the stem names a class. For a stem of ASCII
characters this means letters, digits and underscores, with no digit in front of the others. -/
theorem isIdentifier_typeName_iff (isValid : Text → Bool) (settings : CandidateSettings)
    (candidates : List Candidate) {source : GeneratedSource}
    (h : source ∈ (runCandidatesWith isValid settings candidates).sources) :
    ∃ s : Script, .ofScript s ∈ candidates ∧ s.isLua = true ∧ source.sourcePath = s.path ∧
      source.typeName = scriptClassName s.stem ∧
      (isIdentifier source.typeName = true ↔ NamesClass s.stem) ∧
      ((∀ c ∈ s.stem, c.toNat < 0x80) → (isIdentifier source.typeName = true ↔
        (∀ c ∈ s.stem, isNamePart c = true) ∧ ∀ c ∈ s.stem.find? (· != '_'), c.isDigit = false)) := by
  obtain ⟨scripts, settings', hscripts, hsource⟩ := exists_of_mem_candidateSources h
  obtain ⟨s, hs, hlua, -, htype, hpath⟩ := exists_script_of_mem_sources hsource
  have hiff : isIdentifier source.typeName = true ↔ NamesClass s.stem := by
    rw [htype]
    exact isIdentifier_scriptClassName_iff s.stem
  refine ⟨s, mem_of_scriptsOf hscripts hs, hlua, hpath, htype, hiff, fun hascii => ?_⟩
  rw [hiff]
  exact namesClass_iff_of_ascii hascii

/-- A script whose name has a hyphen. -/
def hyphenatedScript : Script := { path := "my-game.lua", text := .text "x = 1" }

/-- The header for it. -/
def hyphenatedHeader : GeneratedSource :=
  { hintName := "My-gameScript.g.hpp"
    typeName := "My-gameScript"
    sourcePath := "my-game.lua"
    text := header "GeneratedLua" (.ofResult (parse "x = 1" "my-game"))
    isFileName := by decide }

theorem sources_hyphenatedScript (isValid : Text → Bool) :
    (runBatchWith isValid {} [hyphenatedScript]).sources = [hyphenatedHeader] := rfl

/-- The hyphen in its stem keeps the name from being declared. -/
theorem not_isIdentifier_hyphenatedHeader :
    hyphenatedHeader ∈
        (runCandidatesWith (fun _ => true) (.ofSettings {}) [.ofScript hyphenatedScript]).sources ∧
      ¬isIdentifier hyphenatedHeader.typeName = true := by
  have hmem : hyphenatedHeader ∈
      (runCandidatesWith (fun _ => true) (.ofSettings {}) [.ofScript hyphenatedScript]).sources := by
    have hbatch := runCandidatesWith_ofScript (fun _ => true) {} [hyphenatedScript]
    rw [List.map_singleton] at hbatch
    rw [hbatch, sources_hyphenatedScript]
    exact List.mem_cons_self
  refine ⟨hmem, ?_⟩
  obtain ⟨s, -, -, hpath, -, -, hascii⟩ :=
    isIdentifier_typeName_iff (fun _ => true) (.ofSettings {}) _ hmem
  have hstem : s.stem = "my-game".toList := by
    rw [Script.stem, ← hpath]
    rfl
  rw [hstem] at hascii
  have hnames : ¬∀ c ∈ "my-game".toList, isNamePart c = true := fun h =>
    absurd (h '-' (by decide)) (by decide)
  rw [hascii (by simp)]
  exact fun h => hnames h.1

/-- **Not every type name can be declared**, whatever passes the validity check: the script `my-game.lua` has the
class `My-gameScript`. -/
theorem not_every_typeName_isIdentifier :
    ¬∃ isValid : Text → Bool, ∀ (settings : Settings) (scripts : List Script),
      ∀ source ∈ (runBatchWith isValid settings scripts).sources, isIdentifier source.typeName = true := by
  rintro ⟨isValid, h⟩
  have hall := h {} [hyphenatedScript]
  rw [sources_hyphenatedScript] at hall
  exact absurd (hall hyphenatedHeader List.mem_cons_self) (by decide)

end LuaAccessors
