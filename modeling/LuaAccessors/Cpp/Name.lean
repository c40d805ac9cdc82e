import LuaAccessors.Text.LetterCase

/-!
# C++ names

How the names of a Lua source become names of the C++ header. Both conversions look only at the runs
of characters between separators:

- `pascalCase`: the pieces of a name between underscores, each with a capital first letter;
- `sanitize`: the runs of ASCII letters and digits, joined by single underscores.

From them come the names of classes, accessors, setters and cached handles. `isIdentifier` says
which names may be declared.
-/

namespace LuaAccessors.Cpp

/-! ## §1 Runs -/

/-- The longest runs of characters that satisfy `p`, in order. -/
def runs (p : Char → Bool) (t : Text) : List Text :=
  (Text.splitWhere (!p ·) t).filter fun run => !run.isEmpty

/-- The pieces of a name between underscores, without empty ones. -/
def segments (name : Text) : List Text := runs (· != '_') name

/-! ## §2 Conversions -/

/-- A piece of a name with its first letter capital and the others small. -/
def capitalize : Text → Text
  | [] => []
  | c :: rest => upperChar c ++ lower rest

/-- The name with its pieces capitalized and put together. -/
def pascalCase (name : Text) : Text := (segments name).flatMap capitalize

/-- A letter or a digit of ASCII. -/
def isAsciiAlphanumeric (c : Char) : Bool := c.isAlphanum

/-- The name reduced to what every identifier may hold: runs of ASCII letters and digits between
single underscores, with an underscore in front of a leading digit. -/
def sanitize (name : Text) : Text :=
  let joined := Text.join ['_'] (runs isAsciiAlphanumeric name)
  if joined.head?.any Char.isDigit then '_' :: joined else joined

/-- A name may be declared: letters, digits and underscores of any script, with no digit in front. -/
def isIdentifier (name : Text) : Bool :=
  match name with
  | [] => false
  | c :: _ => !isDigit c && name.all fun d => isAlphanumeric d || d == '_'

/-! ## §3 Names in the header -/

/-- The class for a script. -/
def scriptClassName (stem : Text) : Text := pascalCase stem ++ "Script".toList

/-- The file for a script. -/
def outputFileName (stem : Text) : Text := scriptClassName stem ++ ".g.hpp".toList

/-- The class for a table. -/
def tableClassName (name : Text) : Text := pascalCase name ++ "Table".toList

/-- The setter of a value. -/
def setterName (name : Text) : Text := "Set".toList ++ pascalCase name

/-- The member that keeps a function handle. -/
def functionCacheName (name : Text) : Text := "cached_fn_".toList ++ sanitize name ++ ['_']

/-- The member that keeps a table wrapper. -/
def tableCacheName (name : Text) : Text := "cached_tbl_".toList ++ sanitize name ++ ['_']

/-- The accessor of the wrapped table that every table class declares. -/
def rawTableName : Text := "RawTable".toList

/-- The words that no parameter may be called: the keywords of C++ and the names that the body of a
method uses. -/
def reservedWords : List Text := [
  "alignas", "alignof", "and", "and_eq", "asm", "auto", "bitand", "bitor", "bool", "case", "catch",
  "char", "char8_t", "char16_t", "char32_t", "class", "compl", "const", "const_cast", "consteval",
  "constexpr", "continue", "decltype", "default", "delete", "double", "dynamic_cast", "enum",
  "explicit", "export", "extern", "float", "friend", "inline", "int", "long", "mutable", "namespace",
  "new", "noexcept", "nullptr", "operator", "or_eq", "private", "protected", "public", "register",
  "reinterpret_cast", "short", "signed", "sizeof", "static", "static_assert", "struct", "switch",
  "template", "this", "thread_local", "throw", "try", "typedef", "typeid", "typename", "union",
  "unsigned", "using", "virtual", "void", "volatile", "wchar_t", "xor", "xor_eq",
  "err", "fn", "lua", "result", "value"].map String.toList

/-- The name of a parameter: one that is reserved in any letter case has `_lua` put behind it. -/
def parameterName (name : Text) : Text :=
  if reservedWords.contains (lower name) then name ++ "_lua".toList else name

end LuaAccessors.Cpp
