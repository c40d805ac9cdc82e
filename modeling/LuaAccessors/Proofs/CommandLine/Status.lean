import LuaAccessors.Proofs.CommandLine.Headers
import LuaAccessors.Proofs.Files.Discovery
import LuaAccessors.Proofs.Settings

/-!
# The exit status of a run

A run fails if its settings cannot be used, if an input does not exist or if a file stands in the way of the
output directory, and for no other reason. All of this is settled before the first header is written, so a run
that fails leaves every file as it was. What scripts hold makes no difference.

- `Settings.Source.Unusable`, `exists_error_loadSettings_iff`: settings that cannot be used;
- `Fails`: why a run fails;
- `Ends`, `ends_runOptions`: how a run ends;
- `SameShape`, `fails_congr`: trees that differ in what their files hold;
- `status_and_files_of_run`: all of it together.

What reads the settings and checks the scripts is left open. The reader decides whether a document can be used,
and whether it breaks the run off; all else follows whatever the two are.
-/

namespace LuaAccessors

/-! ## §1 Settings that cannot be used -/

namespace Settings

/-- A source that no settings can be read from. -/
inductive Source.Unusable : Source → Prop where
  | invalid {explanation : Option Text} : Unusable (.invalid explanation)
  /-- The document is no mapping, and not empty either. -/
  | notAMapping {value : Value} (hnull : value ≠ .null) (hmapping : ∀ entries, value ≠ .mapping entries) :
      Unusable (.document value)
  /-- The document has a section for the settings that is no mapping. -/
  | sectionNotAMapping {entries : List (Value × Value)} {value : Value}
      (hsection : lookupText settingsSection entries = some value)
      (hmapping : ∀ entries, value ≠ .mapping entries) : Unusable (.document (.mapping entries))

theorem exists_error_documentEntries_iff {path : Text} {value : Value} :
    (∃ e, documentEntries path value = .error e) ↔ (Source.document value).Unusable := by
  constructor
  · rintro ⟨e, h⟩
    unfold documentEntries at h
    split at h
    · cases h
    · split at h
      · cases h
      · cases h
      · -- The section is there and is no mapping.
        rename_i hsection
        exact .sectionNotAMapping hsection ‹_›
    · exact .notAMapping ‹_› ‹_›
  · intro h
    cases h with
    -- Of all values only a mapping and the empty document have entries.
    | notAMapping hnull hmapping =>
      cases value with
      | null => exact absurd rfl hnull
      | mapping entries => exact absurd rfl (hmapping entries)
      | _ => exact ⟨_, rfl⟩
    | @sectionNotAMapping entries value hsection hmapping =>
      rw [documentEntries, hsection]
      cases value with
      | mapping entries => exact absurd rfl (hmapping entries)
      | _ => exact ⟨_, rfl⟩

/-- Entries are never refused: at most a value of theirs cannot be written. -/
theorem settled_applyEntries_ne {e : SettingsError} (he : e.isAboutDocument = true)
    (entries : List (Value × Value)) (s : Settings) : settled (applyEntries entries s) ≠ .error e := by
  rw [run_applyEntries]
  cases blocked? entries with
  | none => rintro ⟨⟩
  | some x =>
    rintro ⟨⟩
    cases he

/-- A document is refused exactly if its source is unusable. -/
theorem exists_load_eq_error_iff {s : Settings} {path : Text} {source : Source} :
    (∃ e, e.isAboutDocument = true ∧ load s path source = .error e) ↔ source.Unusable := by
  cases source with
  | missing =>
    constructor
    · rintro ⟨e, -, ⟨⟩⟩
    · rintro ⟨⟩
  | invalid explanation => exact ⟨fun _ => .invalid, fun _ => ⟨_, rfl, rfl⟩⟩
  | document value =>
    rw [← @exists_error_documentEntries_iff path, load, loadDocument]
    cases hentries : documentEntries path value with
    | error e => exact ⟨fun _ => ⟨e, rfl⟩, fun _ => ⟨e, isAboutDocument_of_documentEntries hentries, rfl⟩⟩
    -- A mapping that is read may still have a value that cannot be written, which is an error of another kind.
    | ok entries =>
      constructor
      · rintro ⟨e, he, herror⟩
        exact absurd herror (settled_applyEntries_ne he entries s)
      · rintro ⟨e, ⟨⟩⟩

/-- Overrides are never refused, so settings are refused exactly if their document is. -/
theorem ofSources_eq_error_iff {document : Option (Text × Source)} {overrides : List (Value × Value)}
    {e : SettingsError} (he : e.isAboutDocument = true) :
    ofSources document overrides = .error e ↔ ofDocument document = .error e := by
  rw [ofSources]
  cases ofDocument document with
  | error e' => rfl
  | ok s => exact ⟨fun h => absurd h (settled_applyEntries_ne he overrides s), fun h => (by cases h)⟩

end Settings

namespace CommandLine

open FileTree

/-! ## §2 Runs that fail

A run goes through its stages in a fixed order, and each stage that can fail does so before anything is written.
-/

theorem caught_eq_ok_error_iff {r : Except SettingsError Settings} {e : SettingsError} :
    caught r = .ok (.error e) ↔ e.isAboutDocument = true ∧ r = .error e := by
  cases r with
  | ok settings => simp [caught]
  | error e' =>
    rw [caught]
    -- Only errors about the document are reported. Any other one breaks the run off.
    cases he : e'.isAboutDocument with
    | true =>
      simp only [if_true, Except.ok.injEq, Except.error.injEq, iff_and_self]
      rintro rfl
      exact he
    | false =>
      simp only [Bool.false_eq_true, if_false, reduceCtorEq, Except.error.injEq, false_iff, not_and]
      rintro habout rfl
      exact absurd (habout.symm.trans he) (by decide)

section

variable {tools : Tools} {t : FileTree} {o : Options}

/-- The settings of a run cannot be used exactly if they are to come from a source that is unusable. -/
theorem exists_error_loadSettings_iff :
    (∃ e, loadSettings tools t o = .ok (.error e)) ↔ ∃ config source, o.config = some config ∧
      settingsSource tools t (Path.ofText config) = .ok source ∧ source.Unusable := by
  unfold loadSettings
  cases o.config with
  | none =>
    simp only [caught_eq_ok_error_iff, reduceCtorEq, false_and, exists_false, iff_false, not_exists]
    -- Overrides alone are no document, so they are never refused as one.
    rintro e ⟨he, herror⟩
    cases (Settings.ofSources_eq_error_iff he).1 herror
  | some config =>
    dsimp only
    cases hsource : settingsSource tools t (Path.ofText config) with
    | error fault => simp [hsource]
    | ok source =>
      simp only [caught_eq_ok_error_iff, Option.some.injEq, exists_and_left, exists_eq_left', hsource,
        Except.ok.injEq, ← @Settings.exists_load_eq_error_iff {} (Path.ofText config).text]
      exact exists_congr fun e => and_congr_right fun he => Settings.ofSources_eq_error_iff he

variable (tools t o) in
/-- Why a run fails. -/
inductive Fails : Prop where
  /-- Its settings cannot be used. -/
  | settings {config : Text} {source : Settings.Source} (hconfig : o.config = some config)
      (hsource : settingsSource tools t (Path.ofText config) = .ok source) (h : source.Unusable)
  /-- An input does not exist. -/
  | input {input : Text} (hinput : input ∈ o.inputs) (hmissing : t.find? (Path.ofText input) = none)
  /-- A file stands in the way of the output directory. -/
  | output {settings : Settings} (hsettings : loadSettings tools t o = .ok (.ok settings))
      (hblocked : t.Blocked (Path.ofText settings.outputDir))

variable (tools t o) in
/-- How a run ends. -/
inductive Ends (r : Outcome Fault) : Prop where
  /-- Something breaks it off. -/
  | broken {fault : Fault} (hstatus : r.status = .error fault)
  /-- It fails and leaves all files as they were. -/
  | failed (hstatus : r.status = .ok 1) (hfails : Fails tools t o) (hgrows : GrowsTo t r.tree)
  | succeeded (hstatus : r.status = .ok 0) (hfails : ¬Fails tools t o)

theorem ends_generate (ht : t.WellFormed) {settings : Settings} {scripts : List Script}
    (hsettings : loadSettings tools t o = .ok (.ok settings))
    (hscripts : collectScripts t (o.inputs.map Path.ofText) = .ok scripts) :
    Ends tools t o (generate tools t o settings scripts) := by
  have hmakes := makes_makeDirectories ht (Path.ofText settings.outputDir)
  unfold generate
  dsimp only
  generalize t.makeDirectories (Path.ofText settings.outputDir) = r at hmakes
  cases hmakes with
  | blocked hblocked hgrows _ => exact .failed rfl (.output hsettings hblocked) hgrows
  | made hopen hmade =>
    dsimp only
    split
    · exact .broken rfl
    · rename_i hfault
      -- The batch reports nothing that would count as an error.
      have hstatus : (if (runBatchWith tools.isValid settings scripts).hasErrors then 1 else 0) = 0 := by
        rw [hasErrors_runBatchWith]
        rfl
      apply Ends.succeeded
      · exact congrArg Except.ok hstatus
      · intro hfails
        cases hfails with
        | settings hconfig hsource hunusable =>
          obtain ⟨e, he⟩ := exists_error_loadSettings_iff.2 ⟨_, _, hconfig, hsource, hunusable⟩
          simp [hsettings] at he
        | input hinput hmissing =>
          have hmem := List.mem_map_of_mem (f := Path.ofText) hinput
          obtain ⟨e, he⟩ := (exists_error_collectScripts_iff ht).2 ⟨_, hmem, hmissing⟩
          simp [hscripts] at he
        | output hsettings' hblocked =>
          obtain rfl := Except.ok.inj (Except.ok.inj (hsettings.symm.trans hsettings'))
          exact hopen hblocked

theorem ends_runOptions (tools : Tools) (ht : t.WellFormed) (o : Options) :
    Ends tools t o (runOptions tools t o) := by
  -- The stages in their order. Up to the last one nothing has been written.
  unfold runOptions
  split
  · exact .broken rfl
  · rename_i e hsettings
    obtain ⟨config, source, hconfig, hsource, hunusable⟩ := exists_error_loadSettings_iff.1 ⟨e, hsettings⟩
    exact .failed rfl (.settings hconfig hsource hunusable) (.refl t)
  · rename_i settings hsettings
    split
    · rename_i missing hmissing
      obtain ⟨p, hp, hnone⟩ := (exists_error_collectScripts_iff ht).1 ⟨missing, hmissing⟩
      obtain ⟨input, hinput, rfl⟩ := List.mem_map.1 hp
      exact .failed rfl (.input hinput hnone) (.refl t)
    · rename_i scripts hscripts
      exact ends_generate ht hsettings hscripts

/-- **The status of a run** says whether it fails. -/
theorem Ends.status {r : Outcome Fault} (h : Ends tools t o r) {n : Nat} (hn : r.status = .ok n) :
    n = 1 ∧ Fails tools t o ∨ n = 0 ∧ ¬Fails tools t o := by
  cases h with
  | broken hstatus => simp [hn] at hstatus
  | failed hstatus hfails _ =>
    rw [hn] at hstatus
    exact .inl ⟨Except.ok.inj hstatus, hfails⟩
  | succeeded hstatus hfails =>
    rw [hn] at hstatus
    exact .inr ⟨Except.ok.inj hstatus, hfails⟩

end

/-! ## §3 What files hold -/

/-- There is nothing in both places, a directory, or a file. -/
inductive SameKind : Option Node → Option Node → Prop where
  | nothing : SameKind none none
  | directory : SameKind (some .directory) (some .directory)
  | file (content content' : FileContent) : SameKind (some (.file content)) (some (.file content'))

theorem SameKind.symm {a b : Option Node} (h : SameKind a b) : SameKind b a := by
  cases h with
  | nothing => exact .nothing
  | directory => exact .directory
  | file content content' => exact .file content' content

/-- The trees have the same files and the same directories, whatever the files hold. -/
def SameShape (t t' : FileTree) : Prop := ∀ key, SameKind (t.node? key) (t'.node? key)

theorem SameShape.symm {t t' : FileTree} (h : SameShape t t') : SameShape t' t := fun key => (h key).symm

/-- Where a path leads does not depend on what files hold. -/
theorem SameShape.locate_eq {t t' : FileTree} (h : SameShape t t') (p : Path) :
    t.locate p = t'.locate p := by
  induction p using Path.induction with
  | top isAbsolute => rfl
  | child p name ih =>
    rw [locate_child, locate_child, ih]
    cases t'.locate p with
    | error fault => rfl
    | ok key =>
      -- The way goes on through a directory only, and it is one in both trees.
      have hkind := h key
      dsimp only
      generalize t.node? key = a at hkind ⊢
      generalize t'.node? key = b at hkind ⊢
      cases hkind <;> rfl

theorem SameShape.find?_eq_none_iff {t t' : FileTree} (h : SameShape t t') (p : Path) :
    t.find? p = none ↔ t'.find? p = none := by
  rw [find?, find?, h.locate_eq]
  cases t'.locate p with
  | error fault => rfl
  | ok key =>
    have hkind := h key
    dsimp only
    generalize t.node? key = a at hkind ⊢
    generalize t'.node? key = b at hkind ⊢
    cases hkind <;> simp

theorem SameShape.blocked {t t' : FileTree} (h : SameShape t t') {p : Path} (hblocked : t.Blocked p) :
    t'.Blocked p := by
  obtain ⟨parts, content, hparts, hfile⟩ := hblocked
  have hkind := h (parts.foldl next (start p))
  rw [hfile] at hkind
  generalize hfile' : t'.node? (parts.foldl next (start p)) = b at hkind
  cases hkind with
  | file _ content' => exact ⟨parts, content', hparts, hfile'⟩

/-- Whether a run fails does not depend on what files hold, as long as the settings are the same. -/
theorem fails_congr {tools : Tools} {t t' : FileTree} (hshape : SameShape t t') {o : Options}
    (hsettings : loadSettings tools t' o = loadSettings tools t o) (h : Fails tools t o) :
    Fails tools t' o := by
  -- Inputs and the output directory are looked at by their kinds only, and the document comes with the settings.
  cases h with
  | settings hconfig hsource hunusable =>
    obtain ⟨e, he⟩ := exists_error_loadSettings_iff.2 ⟨_, _, hconfig, hsource, hunusable⟩
    obtain ⟨config, source, hconfig, hsource, hunusable⟩ :=
      exists_error_loadSettings_iff.1 ⟨e, hsettings.trans he⟩
    exact .settings hconfig hsource hunusable
  | input hinput hmissing => exact .input hinput ((hshape.find?_eq_none_iff _).1 hmissing)
  | output hsome hblocked =>
    exact .output (hsettings.trans hsome) (hshape.blocked hblocked)

/-- **A run that fails leaves all files as they were, and its status says that it fails**, whatever its tools are.
The scripts have no part in this: whatever the files hold, the status is the same as long as the settings are. -/
theorem status_and_files_of_run (tools : Tools) {t : FileTree} (ht : t.WellFormed) {arguments : List Text}
    {o : Options} (hoptions : Options.parse arguments = .ok o) :
    ((runWith tools t arguments).status = .ok 1 → ∀ key content,
      (runWith tools t arguments).tree.node? key = some (.file content) ↔
        t.node? key = some (.file content)) ∧
    (∀ n, (runWith tools t arguments).status = .ok n →
      n = 1 ∧ Fails tools t o ∨ n = 0 ∧ ¬Fails tools t o) ∧
    ∀ t' : FileTree, t'.WellFormed → SameShape t t' → loadSettings tools t' o = loadSettings tools t o →
      ∀ m n, (runWith tools t arguments).status = .ok m → (runWith tools t' arguments).status = .ok n →
        m = n := by
  have hrun : ∀ t, runWith tools t arguments = runOptions tools t o := fun t => by rw [runWith, hoptions]
  rw [hrun]
  have hends := ends_runOptions tools ht o
  refine ⟨?_, fun n hn => hends.status hn, ?_⟩
  · intro hstatus key content
    cases hends with
    | broken h => simp [hstatus] at h
    | failed _ _ hgrows => exact hgrows.file_iff key content
    | succeeded h _ => simp [hstatus] at h
  · intro t' ht' hshape hsettings m n hm hn
    rw [hrun] at hn
    -- Why a run fails is said of the shape of the tree and of the settings alone.
    have hiff : Fails tools t o ↔ Fails tools t' o :=
      ⟨fails_congr hshape hsettings, fails_congr hshape.symm hsettings.symm⟩
    rcases hends.status hm with ⟨rfl, hfails⟩ | ⟨rfl, hfails⟩ <;>
      rcases (ends_runOptions tools ht' o).status hn with ⟨rfl, hfails'⟩ | ⟨rfl, hfails'⟩
    · rfl
    · exact absurd (hiff.1 hfails) hfails'
    · exact absurd (hiff.2 hfails') hfails
    · rfl

/-- A tree in which one of two scripts is missing. -/
def oneGame : FileTree := [
  (["a".toList], .directory), (["a".toList, "game.lua".toList], .file (.text "x = 1".toList))]

/-- The run over both fails for the missing one. -/
theorem fails_oneGame : oneGame.WellFormed ∧ Options.parse twoPaths = .ok { inputs := twoPaths } ∧
    (runWith CommandLine.tools oneGame twoPaths).status = .ok 1 ∧
    Fails CommandLine.tools oneGame { inputs := twoPaths } := by
  have hformed : oneGame.WellFormed := ⟨by decide, by decide⟩
  have hstatus : (runWith CommandLine.tools oneGame twoPaths).status = .ok 1 := by
    rw [runWith, parse_twoPaths]
    rfl
  refine ⟨hformed, parse_twoPaths, hstatus, ?_⟩
  rcases (status_and_files_of_run CommandLine.tools hformed parse_twoPaths).2.1 1 hstatus with
    ⟨-, hfails⟩ | ⟨hone, -⟩
  · exact hfails
  · cases hone

end CommandLine

end LuaAccessors
