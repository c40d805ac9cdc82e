import LuaAccessors.Text.Basic

/-!
# Kinds of Lua values

The kinds that the library tells apart, and the kind that the name of a type in an annotation stands
for. A name that stands for none, or no name, means an unknown kind.
-/

namespace LuaAccessors

/-- A kind of Lua value. -/
inductive ValueType where
  | unknown
  | number
  | string
  | boolean
  | table
  | function
  | nil
  deriving Repr, DecidableEq

namespace ValueType

/-- Every kind. -/
def all : List ValueType := [.unknown, .number, .string, .boolean, .table, .function, .nil]

/-- The type names that annotations may use, each with its kind. -/
def annotated : List (Text × ValueType) := [
  ("number".toList, .number), ("integer".toList, .number), ("int".toList, .number),
  ("string".toList, .string), ("boolean".toList, .boolean), ("bool".toList, .boolean),
  ("table".toList, .table), ("function".toList, .function)]

/-- The kind that an annotated type name stands for. -/
def ofTypeName (explicitType : Option Text) : ValueType :=
  match explicitType with
  | none => .unknown
  | some name => (annotated.lookup name).getD .unknown

end ValueType

end LuaAccessors
