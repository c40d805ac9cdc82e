import LuaAccessors.Annotations
import LuaAccessors.Declaration
import LuaAccessors.Lexis.Scan
import LuaAccessors.Schema.ParseResult
import LuaAccessors.TableLiteral.Field
import LuaAccessors.Value

/-!
# Extraction of schemas

The schema of a source is read off its scanned lines. A line that starts outside table braces, long
strings and block comments and holds code is a statement line: it takes the directives that wait and,
if it declares a member that is not local, adds the member. Lines inside a table literal belong to
the declaration that opened it.

- `buildFunction`, `buildGlobal?`: a member from its declaration and its annotations;
- `declaredMember?`: the member that a statement line adds;
- `extractMembers`: the members of all lines;
- `Extractor`: extraction as a value that can be run again;
- `parse`, `parseValue`: the schema of a source.
-/

namespace LuaAccessors

open Lexis

/-! ## §1 Members from declarations -/

/-- The function that a declaration and its annotations describe; annotations for parameters that
it does not have are left out. -/
def buildFunction (name : Text) (parameterNames : List Text) (isLocal : Bool) (a : Annotations) :
    Function :=
  { name
    parameters := parameterNames.map fun p =>
      { name := p, explicitType := a.parameterTypes.get? p }
    returnType := a.returnType
    isLocal }

/-- The variable that an assignment and its annotations describe, where `following` are the lines
below it; nothing if a function literal is assigned. -/
def buildGlobal? (name value : Text) (isLocal : Bool) (a : Annotations)
    (following : List ScannedLine) : Option Global :=
  if startsWithKeyword functionKeyword value then none
  else
    let valueType := resolveValueType value a.declaredType
    let fields :=
      if valueType = .table ∧ inferValueType value = .table then
        TableLiteral.parseTable value (following.map ScannedLine.code) a.fieldTypes
      else []
    some { name, valueType, fields, explicitType := a.declaredType, isLocal }

/-! ## §2 Members of a source

Two kinds of lines matter: directives wait, and a statement takes all that are waiting, whether or not it
declares anything.
-/

/-- The member that a statement line adds. -/
def declaredMember? (line : Text) (a : Annotations) (following : List ScannedLine) :
    Option Member :=
  match Declaration.ofLine? line with
  | some (.function name parameterNames isLocal) =>
    if isLocal then none else some (.function (buildFunction name parameterNames isLocal a))
  | some (.assignment name value isLocal) =>
    if isLocal then none else (buildGlobal? name value isLocal a following).map .global
  | none => none

/-- The members that scanned lines add, and the directives that wait behind them. -/
def extractMembers (waiting : Collector) : List ScannedLine → List Member × Collector
  | [] => ([], waiting)
  | line :: rest =>
    if line.insideTable || line.isContinuation then extractMembers waiting rest
    else if line.isDirective then extractMembers (waiting.push line.text) rest
    else if line.isBlankLine then extractMembers waiting rest
    else
      let (annotations, waiting) := waiting.take
      let (members, waiting) := extractMembers waiting rest
      match declaredMember? line.text annotations rest with
      | some member => (member :: members, waiting)
      | none => (members, waiting)

/-- The functions among members. -/
def memberFunctions (members : List Member) : List Function :=
  members.filterMap fun
    | .function f => some f
    | _ => none

/-- The variables among members. -/
def memberGlobals (members : List Member) : List Global :=
  members.filterMap fun
    | .global g => some g
    | _ => none

/-! ## §3 Running an extraction -/

/-- What is said of a value that should be a text. Bytes could be searched, but not for a text. -/
def notATextMessage (source : Value) : Text :=
  if source.typeName = "bytes".toList then "cannot use a string pattern on a bytes-like object".toList
  else "expected string or bytes-like object, got '".toList ++ source.typeName ++ ['\'']

/-- What is reported of a source that is no text. -/
def notATextDiagnostic (source : Value) : Diagnostic :=
  { code := "LB002".toList
    severity := .warning
    title := "Lua parse warning".toList
    message := "Parse error at line 0: ".toList ++ notATextMessage source }

/-- An extraction: its source, the directives that wait, and what has been found so far. Running it
again adds to what has been found. -/
structure Extractor where
  /-- The source, which should be a text. -/
  source : Value
  /-- The name of the file without its extension. -/
  fileName : Text
  waiting : Collector := {}
  members : List Member := []
  errors : List Diagnostic := []

namespace Extractor

/-- The extraction after a run over its source. -/
def run (e : Extractor) : Extractor :=
  match e.source with
  | .text source =>
    let (members, waiting) := extractMembers e.waiting (scan source)
    { e with waiting, members := e.members ++ members }
  | source => { e with errors := e.errors ++ [notATextDiagnostic source] }

/-- What has been found so far. -/
def result (e : Extractor) : ParseResult :=
  { fileName := e.fileName
    functions := memberFunctions e.members
    globals := memberGlobals e.members
    errors := e.errors }

end Extractor

/-- The schema of a source that should be a text. -/
def parseValue (source : Value) (fileName : Text) : ParseResult :=
  (Extractor.run { source, fileName }).result

/-- A schema is called by the name that its source was handed over with. -/
theorem fileName_parseValue (source : Value) (fileName : Text) :
    (parseValue source fileName).fileName = fileName := by
  cases source <;> rfl

/-- The schema of a source. -/
def parse (source fileName : Text) : ParseResult := parseValue (.text source) fileName

end LuaAccessors
