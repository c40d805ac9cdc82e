import LuaAccessors.Batch
import LuaAccessors.CommandLine.Options
import LuaAccessors.Diagnostic.Log
import LuaAccessors.Files.Discovery

/-!
# Stages of a run

A run reads its settings and its inputs from a file tree, generates headers and writes those that are
new or have changed. It is a function from a tree and arguments to an outcome; nothing outside the
tree is touched. How documents of settings are read and which texts are valid Lua is not its business: it is
handed tools for both.

- `Tools`, `Fault`: what a run is handed, and what may break it off;
- `Outcome`: what a run prints, how it ends, and the tree that it leaves;
- `loadSettings`: the settings of a run;
- `writeSources`: the headers in the output directory;
- `runWith`: a whole run.

Settings are looked at before inputs, diagnostics are printed before the output directory is made,
and files are written last.
-/

namespace LuaAccessors.CommandLine

/-! ## §1 Tools and outcomes

A fault breaks a run off wherever it stands, with what has been printed and written so far. This is not the way
in which a run fails: that has an exit status of its own, and a line that says why. -/

/-- Why a run is broken off. -/
inductive Fault where
  | file (fault : FileFault)
  /-- Anything else, with what is said of it. -/
  | other (message : Text)
  deriving Repr, DecidableEq

/-- What a run is handed from elsewhere. -/
structure Tools where
  /-- The value of a document, which is handed over as a text or as the reason why it is none. A document that is
  no such document is explained; anything else that goes wrong breaks the run off. -/
  readDocument : Except DecodeError Text → Except Fault (Except (Option Text) Value)
  /-- Whether a text is valid Lua. -/
  isValid : Text → Bool

/-- What comes of a run, where `φ` is what may break it off. -/
structure Outcome (φ : Type) where
  /-- The exit status, or the fault that broke the run off. -/
  status : Except φ Nat
  /-- The lines on standard output. -/
  stdout : List Text := []
  /-- The lines on standard error. -/
  stderr : List Text := []
  /-- The tree that is left. -/
  tree : FileTree

/-- The text of some printed lines. -/
def printed (lines : List Text) : Text := lines.flatMap fun l => l ++ ['\n']

/-- The line that reports an error. -/
def errorLine (message : Text) : Text := "Error: ".toList ++ message

/-! ## §2 Settings -/

/-- What a file holds when it is opened as a text. -/
def openedText : FileContent → Except DecodeError Text
  | .text t => .ok t.normalizeLineEnds
  | .undecodable e => .error e

/-- What stands in the file of the settings; one that does not exist is passed over. -/
def settingsSource (tools : Tools) (t : FileTree) (p : Path) : Except Fault Settings.Source :=
  match t.find? p with
  | none => .ok .missing
  | some (_, .directory) => .error (.file (.isADirectory p))
  | some (_, .file content) =>
    (tools.readDocument (openedText content)).map fun
      | .ok value => .document value
      | .error explanation => .invalid explanation

/-- The settings that options give. -/
def overrides (o : Options) : List (Value × Value) :=
  let text (t : Option Text) : Value := (t.map .text).getD .null
  [(.text "namespace", text o.namespaceName), (.text "lua_directory", text o.luaDirectory),
   (.text "output_dir", text o.outputDir),
   (.text "check_syntax", if o.checkSyntax then .boolean true else .null)]

/-- A run copes with errors of documents; a value that cannot be written breaks it off. -/
def caught : Except SettingsError Settings → Except Fault (Except SettingsError Settings)
  | .ok settings => .ok (.ok settings)
  | .error e => if e.isAboutDocument then .ok (.error e) else .error (.other e.message)

/-- The settings of a run. -/
def loadSettings (tools : Tools) (t : FileTree) (o : Options) :
    Except Fault (Except SettingsError Settings) :=
  match o.config with
  | none => caught (Settings.ofSources none (overrides o))
  | some config =>
    let p := Path.ofText config
    match settingsSource tools t p with
    | .error fault => .error fault
    | .ok source => caught (Settings.ofSources (some (p.text, source)) (overrides o))

/-! ## §3 Headers in files -/

/-- What writing headers leaves behind. -/
structure Written where
  tree : FileTree
  /-- The lines that report what has been done. -/
  lines : List Text := []
  /-- The files that have been written. -/
  paths : List Path := []
  /-- What broke the writing off. -/
  fault : Option FileFault := none

/-- The text in the file that a path leads to, if it leads anywhere. -/
def presentText? (t : FileTree) (p : Path) : Except FileFault (Option Text) :=
  if (t.find? p).isNone then .ok none else (t.readText p).map some

/-- The headers, each written to its file below `dir` unless the file holds its text. -/
def writeSources (dir : Path) (verbose : Bool) (t : FileTree) : List GeneratedSource → Written
  | [] => { tree := t }
  | source :: rest =>
    let target := dir.join source.hintName
    match presentText? t target with
    | .error fault => { tree := t, fault := some fault }
    | .ok present =>
      if present = some source.text then
        let w := writeSources dir verbose t rest
        if verbose then { w with lines := ("Unchanged: ".toList ++ target.text) :: w.lines } else w
      else
        match t.writeText target source.text with
        | .error fault => { tree := t, fault := some fault }
        | .ok t =>
          let w := writeSources dir verbose t rest
          { w with
            lines := ("Generated: ".toList ++ target.text) :: w.lines
            paths := target :: w.paths }

/-! ## §4 Runs -/

/-- The lines that report the diagnostics of a batch. -/
def reportLines (verbose : Bool) (diagnostics : List Diagnostic) : List Text :=
  diagnostics.map Diagnostic.format
    ++ if verbose then [DiagnosticLog.formatSummary diagnostics] else []

/-- A run whose settings and scripts are known. -/
def generate (tools : Tools) (t : FileTree) (o : Options) (settings : Settings) (scripts : List Script) :
    Outcome Fault :=
  let opening : List Text :=
    if o.verbose then
      ["Collected ".toList ++ Text.ofNat scripts.length ++ " input file(s)".toList,
       "Namespace: ".toList ++ settings.namespaceName]
    else []
  let batch := runBatchWith tools.isValid settings scripts
  let report := reportLines o.verbose batch.diagnostics
  let dir := Path.ofText settings.outputDir
  match t.makeDirectories dir with
  | (t, .error fault) =>
    let message := "Cannot create output directory ".toList ++ dir.text ++ ": ".toList
      ++ fault.message
    { status := .ok 1, stdout := opening, stderr := report ++ [errorLine message], tree := t }
  | (t, .ok ()) =>
    let w := writeSources dir o.verbose t batch.sources
    let status : Except Fault Nat :=
      match w.fault with
      | some fault => .error (.file fault)
      | none => .ok (if batch.hasErrors then 1 else 0)
    { status, stdout := opening ++ w.lines, stderr := report, tree := w.tree }

/-- A run with known options. -/
def runOptions (tools : Tools) (t : FileTree) (o : Options) : Outcome Fault :=
  match loadSettings tools t o with
  | .error fault => { status := .error fault, tree := t }
  | .ok (.error e) => { status := .ok 1, stderr := [errorLine e.message], tree := t }
  | .ok (.ok settings) =>
    match collectScripts t (o.inputs.map Path.ofText) with
    | .error missing => { status := .ok 1, stderr := [errorLine missing.message], tree := t }
    | .ok scripts => generate tools t o settings scripts

/-- A run with the given arguments. A request for help ends it; the text that is printed then is left out. -/
def runWith (tools : Tools) (t : FileTree) (arguments : List Text) : Outcome Fault :=
  match Options.parse arguments with
  | .error .help => { status := .ok 0, tree := t }
  | .error (.usage e) =>
    { status := .ok 2, stderr := ["lua2bind: error: ".toList ++ e.message], tree := t }
  | .ok o => runOptions tools t o

end LuaAccessors.CommandLine
