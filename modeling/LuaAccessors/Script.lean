import LuaAccessors.Files.Path
import LuaAccessors.Text.LetterCase
import LuaAccessors.Value

/-!
# Scripts

A script is a text with the path that it was found under. Backslashes in paths count as slashes. A
path names a Lua script if it ends in `.lua` in any letter case, and lies in a directory if it holds
the directory's name in any letter case.
-/

namespace LuaAccessors

/-- A script as it is handed to the generator. -/
structure Script where
  /-- The path, as it was given. -/
  path : Text
  /-- The text; null if there is none. -/
  text : Value := .null
  /-- Why the text could not be read. -/
  readError : Option Text := none
  deriving Repr

/-- A path with slashes for backslashes. -/
def normalizePath (path : Text) : Text := Text.replaceChar '\\' '/' path

/-- Whether a path ends in `.lua`. -/
def isLuaPath (path : Text) : Bool := ".lua".toList.isSuffixOf (lower path)

/-- Whether a path lies in a directory, by containment; an empty directory holds every path. -/
def isInDirectory (path directory : Text) : Bool :=
  let directory := (normalizePath directory).trimBoth '/'
  directory.isEmpty || Text.isInfix (lower directory) (lower (normalizePath path))

namespace Script

/-- The name of the script without its directory and its last suffix. -/
def stem (s : Script) : Text := (Path.ofText (normalizePath s.path)).stem

/-- The script is a Lua script by its path. -/
def isLua (s : Script) : Bool := isLuaPath s.path

end Script

end LuaAccessors
