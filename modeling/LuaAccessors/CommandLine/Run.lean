import LuaAccessors.CommandLine.Stages
import LuaAccessors.Lua.Chunk
import LuaAccessors.Settings.Document

/-!
# Runs of the command line

The program has a reader of settings documents and a grammar check of its own; both know the part of their
languages that is in common use. They are tools like any others, and nothing but this module makes use of them.

- `tools`: the reader and the check;
- `syntaxFindings`, `runCandidates`: scripts and batches with the check;
- `CommandLine.run`: a run with both.
-/

namespace LuaAccessors

/-! ## §1 Documents and scripts -/

/-- The source that a text is, if there is one. -/
def Settings.Source.ofText : Option Text → Source
  | none => .missing
  | some t =>
    match readDocument? t.normalizeLineEnds with
    | none => .invalid none
    | some value => .document value

/-- What the grammar check of a script finds. -/
def syntaxFindings (s : Script) : List Finding := syntaxFindingsWith Lua.isChunk s

/-- What becomes of a batch when its scripts are checked by the grammar. -/
def runCandidates (settings : CandidateSettings) (candidates : List Candidate) : Batch :=
  runCandidatesWith Lua.isChunk settings candidates

namespace CommandLine

/-! ## §2 Runs

A file is read piece by piece, and a piece may end in the middle of a character. What is said of such a
character counts from the start of its own piece. -/

/-- The fault that a file without a text is to a reader that goes piece by piece. -/
def pieceFault (e : DecodeError) : FileFault :=
  .undecodable (if e.reason = .unexpectedEnd then { e with start := 0 } else e)

/-- The tools of the program. -/
def tools : Tools where
  readDocument
    | .ok text => .ok ((Settings.readDocument? text).elim (.error none) .ok)
    | .error e => .error (.file (pieceFault e))
  isValid := Lua.isChunk

/-- The outcome as a caller has it, who knows faults of files only: whatever else breaks a run off ends it with
status 1. -/
def Outcome.settled (o : Outcome Fault) : Outcome FileFault :=
  match o.status with
  | .ok status => { o with status := .ok status }
  | .error (.file fault) => { o with status := .error fault }
  | .error (.other message) => { o with status := .ok 1, stderr := o.stderr ++ [message] }

/-- A run with the given arguments. -/
def run (t : FileTree) (arguments : List Text) : Outcome FileFault := (runWith tools t arguments).settled

end CommandLine

end LuaAccessors
