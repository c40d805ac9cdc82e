import LuaAccessors.Diagnostic

/-!
# Findings of a batch

What can be reported of a batch of scripts, each finding with the code, the severity, the title and
the wording of its diagnostic.
-/

namespace LuaAccessors

/-- Something that is reported of a batch. -/
inductive Finding where
  /-- The text of a script could not be read. -/
  | unreadable (path reason : Text)
  /-- The source of a script could not be taken apart. -/
  | unparsable (path title message : Text)
  /-- No input is a Lua script. -/
  | noLuaFiles
  /-- No Lua script lies in the configured directory. -/
  | outsideDirectory (count : Nat) (directory : Text)
  /-- A script declares nothing. -/
  | nothingExposed (stem : Text)
  /-- Headers have been generated. -/
  | complete (namespaceName : Text) (typeNames : List Text)
  /-- Scripts have been read, but none declares anything. -/
  | noTypes (count : Nat)
  /-- A script is no valid Lua. -/
  | invalidSyntax (path : Text)
  /-- A member could not be named. -/
  | memberSkipped (member stem : Text)
  /-- A value has a type that cannot be dealt with. -/
  | wrongType (typeName method : Text)
  deriving Repr, DecidableEq

namespace Finding

/-- The code of a finding's diagnostic. -/
def code : Finding → Text
  | unreadable .. => "LB001"
  | unparsable .. => "LB002"
  | noLuaFiles => "LB003"
  | outsideDirectory .. => "LB004"
  | nothingExposed .. => "LB005"
  | complete .. => "LB006"
  | noTypes .. => "LB007"
  | invalidSyntax .. => "LB008"
  | memberSkipped .. => "LB009"
  | wrongType .. => "LB999"

/-- The severity of a finding. -/
def severity : Finding → Severity
  | complete .. => .info
  | wrongType .. => .error
  | _ => .warning

/-- The title of a finding's diagnostic. -/
def title : Finding → Text
  | unreadable .. => "Error generating bindings"
  | unparsable _ title _ => title
  | noLuaFiles => "No Lua files found"
  | outsideDirectory .. => "No Lua files in configured directory"
  | nothingExposed .. => "No exportable members"
  | complete .. => "lua2bind generation complete"
  | noTypes .. => "No types generated"
  | invalidSyntax .. => "Lua syntax error"
  | memberSkipped .. => "Member not generated"
  | wrongType .. => "Generator exception"

/-- The pieces of a finding's message. -/
def messagePieces : Finding → List Text
  | unreadable path reason => ["Error processing ", path, ": ", reason]
  | unparsable path _ message => ["Error parsing ", path, ": ", message]
  | noLuaFiles => ["lua2bind: No .lua files found among the inputs."]
  | outsideDirectory count directory =>
    ["lua2bind: Found ", Text.ofNat count, " .lua file(s), but none match the configured directory ",
     "'", directory, "'. Check the lua_directory setting."]
  | nothingExposed stem =>
    ["lua2bind: '", stem, ".lua' has no global functions or variables to export. ",
     "Only non-local members are generated."]
  | complete namespaceName typeNames =>
    ["lua2bind: Generated ", Text.ofNat typeNames.length, " type(s) in namespace '",
     namespaceName, "': ", Text.join ", " typeNames]
  | noTypes count =>
    ["lua2bind: Processed ", Text.ofNat count, " Lua file(s) but generated no types. ",
     "Check that files contain global (non-local) functions or variables."]
  | invalidSyntax path => ["Invalid Lua syntax in ", path]
  | memberSkipped member stem =>
    ["lua2bind: '", member, "' in '", stem, ".lua' was not generated because ",
     "its C++ name is invalid or already in use."]
  | wrongType typeName method =>
    ["lua2bind threw an exception: AttributeError(",
     quoteText (['\''] ++ typeName ++ "' object has no attribute '".toList ++ method
       ++ ['\'']),
     ")"]

/-- The diagnostic that reports a finding. -/
def diagnostic (f : Finding) : Diagnostic :=
  { code := f.code, severity := f.severity, title := f.title, message := f.messagePieces.flatten }

end Finding

end LuaAccessors
