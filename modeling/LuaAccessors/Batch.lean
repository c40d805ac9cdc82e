import LuaAccessors.Batch.Finding
import LuaAccessors.Cpp.Header
import LuaAccessors.Extraction
import LuaAccessors.Proofs.Cpp.FileName
import LuaAccessors.Script
import LuaAccessors.Settings

/-!
# Batches

A batch of scripts becomes headers, one for each Lua script in the configured directory that declares
something, and diagnostics. Scripts do not influence each other: each has one outcome, and the batch
puts the outcomes together and adds one finding about the whole.

- `ScriptOutcome`, `processScript`: what becomes of one script;
- `Batch`, `runBatchWith`: what becomes of a batch;
- `Candidate`, `runCandidatesWith`: a batch whose values may be of any type;
- `runBatchesWith`: batches one after the other.

Whether a text is valid Lua is for others to say: `isValid` stands for the one who checks it.
-/

namespace LuaAccessors

/-! ## §1 One script -/

/-- A generated header. -/
structure GeneratedSource where
  /-- The name of the file for it. -/
  hintName : Text
  /-- The name of its class. -/
  typeName : Text
  /-- The path of the script. -/
  sourcePath : Text
  /-- The text. -/
  text : Text
  /-- The name of the file is one component. -/
  isFileName : IsFileName hintName
  deriving Repr, DecidableEq

/-- What becomes of a script. -/
structure ScriptOutcome where
  source : Option GeneratedSource := none
  findings : List Finding := []
  deriving Repr

/-- What the validity check of a script finds. -/
def syntaxFindingsWith (isValid : Text → Bool) (s : Script) : List Finding :=
  match s.text with
  | .text t => if isValid t then [] else [.invalidSyntax s.path]
  | _ => []

/-- The header of a script can be a file of its own, since no stem leads to another directory. -/
theorem Script.isFileName_outputFileName (s : Script) : IsFileName (Cpp.outputFileName s.stem) :=
  Cpp.isFileName_outputFileName (Path.slash_not_mem_stem _)

/-- What becomes of a script whose schema has been read. -/
def generateSource (settings : Settings) (s : Script) (r : ParseResult) (hname : r.fileName = s.stem) :
    ScriptOutcome :=
  let tree := Cpp.ScriptClass.ofResult r
  { source := some {
      hintName := Cpp.outputFileName r.fileName
      typeName := Cpp.scriptClassName r.fileName
      sourcePath := s.path
      text := Cpp.header settings.namespaceName tree
      isFileName := hname ▸ s.isFileName_outputFileName }
    findings := tree.skipped.map fun name => .memberSkipped name s.stem }

/-- What becomes of a script: a read error or an empty text ends it, else its schema is read. -/
def processScript (isValid : Text → Bool) (settings : Settings) (s : Script) : ScriptOutcome :=
  match s.readError with
  | some reason => { findings := [.unreadable s.path reason] }
  | none =>
    if !s.text.truthy then {}
    else
      let r := parseValue s.text s.stem
      let before := (if settings.checkSyntax then syntaxFindingsWith isValid s else [])
        ++ r.errors.map fun d => .unparsable s.path d.title d.message
      let outcome : ScriptOutcome :=
        if r.hasExposedMembers then generateSource settings s r (fileName_parseValue s.text s.stem)
        else { findings := [.nothingExposed s.stem] }
      { outcome with findings := before ++ outcome.findings }

/-! ## §2 Batches

Scripts are taken one after the other, and none of them sees what became of another: the outcome of a batch is
the sum of what its scripts give.
-/

/-- What becomes of a batch. -/
structure Batch where
  sources : List GeneratedSource := []
  diagnostics : List Diagnostic := []
  deriving Repr

/-- Some diagnostic of the batch is an error. -/
def Batch.hasErrors (b : Batch) : Bool := b.diagnostics.any fun d => d.severity == .error

/-- The scripts of a batch that headers are generated for. -/
def eligible (settings : Settings) (scripts : List Script) : List Script :=
  scripts.filter fun s => s.isLua && isInDirectory s.path settings.luaDirectory

/-- What is found in front of the scripts of a batch: that there are none to read. -/
def openingFindings (settings : Settings) (scripts : List Script) : List Finding :=
  let lua := scripts.filter Script.isLua
  if lua.isEmpty then [.noLuaFiles]
  else if (eligible settings scripts).isEmpty then
    [.outsideDirectory lua.length settings.luaDirectory]
  else []

/-- What is found behind the scripts of a batch: what was generated of them. -/
def closingFindings (settings : Settings) (count : Nat) (sources : List GeneratedSource) :
    List Finding :=
  if sources.isEmpty then (if count = 0 then [] else [.noTypes count])
  else [.complete settings.namespaceName (sources.map GeneratedSource.typeName)]

/-- What becomes of a batch of scripts. -/
def runBatchWith (isValid : Text → Bool) (settings : Settings) (scripts : List Script) : Batch :=
  let chosen := eligible settings scripts
  let outcomes := chosen.map (processScript isValid settings)
  let sources := outcomes.filterMap ScriptOutcome.source
  { sources
    diagnostics := (openingFindings settings scripts ++ outcomes.flatMap ScriptOutcome.findings
      ++ closingFindings settings chosen.length sources).map Finding.diagnostic }

/-! ## §3 Values of any type -/

/-- A script whose path need not be a text. -/
structure Candidate where
  path : Value
  text : Value
  readError : Option Text := none

/-- Settings of a batch whose values may be of any type. -/
structure CandidateSettings where
  namespaceName : Value
  luaDirectory : Value
  checkSyntax : Value

/-- The settings as values of any type. -/
def CandidateSettings.ofSettings (s : Settings) : CandidateSettings :=
  { namespaceName := .text s.namespaceName, luaDirectory := .text s.luaDirectory
    checkSyntax := .boolean s.checkSyntax }

/-- The scripts, if all paths are texts; else the type of the first that is not. -/
def scriptsOf : List Candidate → Except Text (List Script)
  | [] => .ok []
  | c :: rest =>
    match c.path with
    | .text path => (scriptsOf rest).map ({ path, text := c.text, readError := c.readError } :: ·)
    | other => .error other.typeName

/-- A batch that only reports a value of a wrong type. -/
def Batch.wrongType (typeName method : Text) : Batch :=
  { diagnostics := [(Finding.wrongType typeName method).diagnostic] }

/-- What becomes of a batch of scripts when neither their values nor the settings are known to be of
the right types: a path that is no text, or a directory that is none while there is a Lua script,
spoils the batch. A namespace that is no text is one that can be written. -/
def runCandidatesWith (isValid : Text → Bool) (settings : CandidateSettings)
    (candidates : List Candidate) : Batch :=
  match scriptsOf candidates with
  | .error typeName => .wrongType typeName "lower"
  | .ok scripts =>
    let run (luaDirectory : Text) : Batch :=
      runBatchWith isValid
        { namespaceName := settings.namespaceName.writtenText, luaDirectory
          checkSyntax := settings.checkSyntax.truthy } scripts
    match settings.luaDirectory with
    | .text directory => run directory
    | other =>
      if scripts.any Script.isLua then .wrongType other.typeName "replace" else run []

/-- What becomes of batches that are handed in one after the other. Nothing is kept from one to the
next. -/
def runBatchesWith (isValid : Text → Bool) (settings : CandidateSettings)
    (batches : List (List Candidate)) : List Batch :=
  batches.map (runCandidatesWith isValid settings)

end LuaAccessors
