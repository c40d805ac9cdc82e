import LuaAccessors.Settings.Mapping

/-!
# Settings

The settings of a run start from their defaults; a document and then the command line may replace
them. A value that is missing, null or blank leaves a setting as it is.

- `Settings`, `Settings.TextSetting`: the four settings, and those of them that are texts;
- `SettingsError`: why settings cannot be used;
- `Settings.applyEntries`, `Settings.loadDocument`: the entries of a mapping, and a document, whose settings may
  stand at the top or in a section of their own, as changes of settings in place;
- `Settings.apply`, `Settings.load`: what such a change makes of settings;
- `Settings.ofSources`: the defaults, then a document, then overrides.

Settings are replaced one after the other. When a value cannot be written, those in front of it have been
replaced already; all other errors come before the first setting is touched.
-/

namespace LuaAccessors

/-! ## §1 The settings -/

/-- The settings of a run. -/
structure Settings where
  /-- The C++ namespace of the headers. -/
  namespaceName : Text := "GeneratedLua"
  /-- Only scripts under this directory are taken; if it is empty, all are. -/
  luaDirectory : Text := ""
  /-- The directory that headers are written to. -/
  outputDir : Text := "."
  /-- Scripts that are not valid Lua are reported. -/
  checkSyntax : Bool := false
  deriving Repr, DecidableEq

/-- A setting that is a text. -/
inductive Settings.TextSetting where
  | namespaceName
  | luaDirectory
  | outputDir
  deriving Repr, DecidableEq

namespace Settings.TextSetting

/-- The settings that are texts, in their turn. -/
def all : List TextSetting := [.namespaceName, .luaDirectory, .outputDir]

/-- What a setting is called in a mapping. -/
def key : TextSetting → Text
  | namespaceName => "namespace"
  | luaDirectory => "lua_directory"
  | outputDir => "output_dir"

/-- A setting among the others. -/
def get : TextSetting → Settings → Text
  | namespaceName => Settings.namespaceName
  | luaDirectory => Settings.luaDirectory
  | outputDir => Settings.outputDir

/-- The settings with another text for one of them. -/
def set (x : TextSetting) (s : Settings) (t : Text) : Settings :=
  match x with
  | namespaceName => { s with namespaceName := t }
  | luaDirectory => { s with luaDirectory := t }
  | outputDir => { s with outputDir := t }

@[simp] theorem get_set (x y : TextSetting) (s : Settings) (t : Text) :
    x.get (y.set s t) = if x = y then t else x.get s := by
  cases x <;> cases y <;> rfl

@[simp] theorem checkSyntax_set (x : TextSetting) (s : Settings) (t : Text) :
    (x.set s t).checkSyntax = s.checkSyntax := by
  cases x <;> rfl

end Settings.TextSetting

/-- What the check of the syntax is called in a mapping. -/
def checkSyntaxKey : Text := "check_syntax"

/-- Why settings cannot be used. -/
inductive SettingsError where
  /-- The document cannot be read, with what its reader says about it. -/
  | invalidDocument (path : Text) (explanation : Option Text)
  /-- The document is no mapping. -/
  | notAMapping (path : Text)
  /-- The section of the settings is no mapping. -/
  | sectionNotAMapping (path : Text)
  /-- The value under a key cannot be written as a text. -/
  | unwritable (key : Text)
  deriving Repr, DecidableEq

/-- The section of a document that may hold the settings. -/
def settingsSection : Text := "lua2bind"

namespace SettingsError

/-- What is said of settings that cannot be used. -/
def message : SettingsError → Text
  | invalidDocument path explanation =>
    "Invalid YAML in ".toList ++ path ++ explanation.elim [] (": ".toList ++ ·)
  | notAMapping path => "Config file ".toList ++ path ++ " must contain a mapping".toList
  | sectionNotAMapping path =>
    '\'' :: settingsSection ++ "' in ".toList ++ path ++ " must be a mapping".toList
  | unwritable _ =>
    "Exceeds the limit (".toList ++ Text.ofNat Value.maxDigits ++ (" digits) for integer string conversion; "
      ++ "use sys.set_int_max_str_digits() to increase the limit").toList

/-- Whether the error is about a document. A value that cannot be written breaks off whatever is under way. -/
def isAboutDocument : SettingsError → Bool
  | invalidDocument .. | notAMapping _ | sectionNotAMapping _ => true
  | unwritable _ => false

end SettingsError

namespace Settings

/-! ## §2 Entries

A change of settings runs on the settings as they are, and when it fails, the settings stay as it has left
them. -/

/-- A change of settings in place. -/
abbrev Change := EStateM SettingsError Settings Unit

/-- The text that a mapping supplies for a setting: the trimmed text of a value that is neither null
nor blank. -/
def suppliedText (entries : List (Value × Value)) (key : Text) : Except SettingsError (Option Text) :=
  match lookupText key entries with
  | none => .ok none
  | some value =>
    if value.isNull then .ok none
    else match value.text? with
      | none => .error (.unwritable key)
      | some t => .ok (if t.strip.isEmpty then none else some t.strip)

/-- The truth value that a mapping supplies for a setting, if it has one that is not null. -/
def suppliedTruth? (entries : List (Value × Value)) (key : Text) : Option Bool :=
  match lookupText key entries with
  | none => none
  | some value => if value.isNull then none else some value.truthy

/-- A setting is replaced if there is a value for it. -/
def replace {α : Type} (set : Settings → α → Settings) : Except SettingsError (Option α) → Change
  | .error e => throw e
  | .ok none => pure ()
  | .ok (some a) => modify fun s => set s a

/-- The texts that a mapping supplies, one setting after the other. -/
def applyTexts (entries : List (Value × Value)) : List TextSetting → Change
  | [] => pure ()
  | x :: rest => do
    replace x.set (suppliedText entries x.key)
    applyTexts entries rest

/-- The entries of a mapping; those of other names are left out. -/
def applyEntries (entries : List (Value × Value)) : Change := do
  applyTexts entries TextSetting.all
  replace (fun s b => { s with checkSyntax := b }) (.ok (suppliedTruth? entries checkSyntaxKey))

/-! ## §3 Documents -/

/-- What has been read from the place of a document. -/
inductive Source where
  /-- There is no document. -/
  | missing
  /-- There is one that cannot be read. -/
  | invalid (explanation : Option Text)
  /-- There is one with this value. -/
  | document (value : Value)
  deriving Repr

/-- The entries that a document supplies. -/
def documentEntries (path : Text) : Value → Except SettingsError (List (Value × Value))
  | .null => .ok []
  | .mapping entries =>
    match lookupText settingsSection entries with
    | none => .ok entries
    | some (.mapping section_) => .ok section_
    | some _ => .error (.sectionNotAMapping path)
  | _ => .error (.notAMapping path)

/-- A document at `path`; a missing one changes nothing. -/
def loadDocument (path : Text) : Source → Change
  | .missing => pure ()
  | .invalid explanation => throw (.invalidDocument path explanation)
  | .document value =>
    match documentEntries path value with
    | .error e => throw e
    | .ok entries => applyEntries entries

/-! ## §4 Layers -/

/-- The settings that a change leaves, whether it fails or not. -/
def left : EStateM.Result SettingsError Settings Unit → Settings
  | .ok _ s => s
  | .error _ s => s

/-- The settings after a change that does not fail. -/
def settled : EStateM.Result SettingsError Settings Unit → Except SettingsError Settings
  | .ok _ s => .ok s
  | .error e _ => .error e

/-- The settings that the entries of a mapping leave. -/
def apply (s : Settings) (entries : List (Value × Value)) : Settings := left (applyEntries entries s)

/-- The settings after a document at `path`. -/
def load (s : Settings) (path : Text) (source : Source) : Except SettingsError Settings :=
  settled (loadDocument path source s)

/-- The settings from the defaults and a document, if one is named. -/
def ofDocument : Option (Text × Source) → Except SettingsError Settings
  | none => .ok {}
  | some (path, source) => load {} path source

/-- The settings from the defaults, a document if one is named, and overrides. -/
def ofSources (document : Option (Text × Source)) (overrides : List (Value × Value)) :
    Except SettingsError Settings := do
  let s ← ofDocument document
  settled (applyEntries overrides s)

end Settings

end LuaAccessors
