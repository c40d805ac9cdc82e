import LuaAccessors.Schema.ValueType

/-!
# C++ types

The C++ type of a value, a parameter or a result. An annotation takes precedence over the kind that
was inferred; what no type can be told for is passed as a dynamic object.
-/

namespace LuaAccessors

/-- A C++ type that the header uses. -/
inductive CppType where
  | double
  | int
  | string
  | bool
  | table
  | object
  | void
  deriving Repr, DecidableEq

namespace CppType

/-- The type as the header writes it. -/
def text : CppType → Text
  | .double => "double".toList
  | .int => "int".toList
  | .string => "std::string".toList
  | .bool => "bool".toList
  | .table => "sol::table".toList
  | .object => "sol::object".toList
  | .void => "void".toList

/-- Values of the type are passed by reference. -/
def isReference : CppType → Bool
  | .string | .table | .object => true
  | .double | .int | .bool | .void => false

/-- The type names that annotations may use, each with its C++ type. -/
def annotated : List (Text × CppType) := [
  ("number".toList, .double), ("integer".toList, .int), ("int".toList, .int),
  ("string".toList, .string), ("boolean".toList, .bool), ("bool".toList, .bool),
  ("table".toList, .table), ("function".toList, .object)]

/-- The C++ type that an annotated type name stands for. -/
def ofTypeName (name : Text) : CppType := (annotated.lookup name).getD .object

/-- The C++ type for a kind of values. -/
def ofValueType : ValueType → CppType
  | .number => .double
  | .string => .string
  | .boolean => .bool
  | .table => .table
  | .function | .nil | .unknown => .object

/-- The type of a variable or a table field; an empty type name counts as no annotation. -/
def ofValue (valueType : ValueType) (explicitType : Option Text) : CppType :=
  match explicitType with
  | some (c :: name) => ofTypeName (c :: name)
  | _ => ofValueType valueType

/-- The type of a parameter. -/
def ofParameter (explicitType : Option Text) : CppType :=
  match explicitType with
  | some (c :: name) => ofTypeName (c :: name)
  | _ => .object

/-- The type of a result; without an annotation, or with `nil` or `void`, there is none. -/
def ofResult (explicitType : Option Text) : CppType :=
  match explicitType with
  | some (c :: name) =>
    if c :: name = "nil".toList ∨ c :: name = "void".toList then .void else ofTypeName (c :: name)
  | _ => .void

end CppType

end LuaAccessors
