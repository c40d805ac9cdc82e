import LuaAccessors.Diagnostic
import LuaAccessors.Schema.Member

/-!
# The schema of a source

What has been read off one Lua source: its functions and its variables, in source order, and the
diagnostic of a source that could not be read.
-/

namespace LuaAccessors

/-- The schema of one Lua source. -/
structure ParseResult where
  /-- The name of the file without its extension. -/
  fileName : Text
  /-- The functions. -/
  functions : List Function := []
  /-- The variables. -/
  globals : List Global := []
  /-- What kept the source from being read. -/
  errors : List Diagnostic := []
  deriving Repr

/-- The source declares something. -/
def ParseResult.hasExposedMembers (r : ParseResult) : Bool :=
  !r.functions.isEmpty || !r.globals.isEmpty

end LuaAccessors
