import LuaAccessors.Declaration
import LuaAccessors.Lexis.LongBracket
import LuaAccessors.Lexis.Mode
import LuaAccessors.Schema.ValueType

/-!
# Kinds of literals

The kind of a value is read off its text: a table, a string, `true`, `false`, `nil`, a decimal
number or a function literal. References, calls and arithmetic are of unknown kind. An annotation
that names a type overrules the text.
-/

namespace LuaAccessors

/-- Whether a text is a decimal number: an optional minus sign, digits, and optionally a point and
further digits. -/
def isNumberLiteral (t : Text) : Bool :=
  let unsigned := if t.head? = some '-' then t.tail else t
  match unsigned with
  | [] => false
  | c :: rest =>
    isDecimalDigit c &&
      match rest.dropWhile isDecimalDigit with
      | '.' :: fraction => fraction.all isDecimalDigit
      | rest => rest.isEmpty

/-- The kind that the text of a value shows. -/
def inferValueType (value : Text) : ValueType :=
  let value := value.strip
  if value.head? = some '{' then .table
  else if value.head?.any Lexis.isQuote || (Lexis.bracketLevel value).isSome then .string
  else if value = "true".toList ∨ value = "false".toList then .boolean
  else if value = "nil".toList then .nil
  else if isNumberLiteral value then .number
  else if startsWithKeyword functionKeyword value then .function
  else .unknown

/-- The kind that a value has under an annotation; an empty type name counts as no annotation. -/
def resolveValueType (value : Text) (explicitType : Option Text) : ValueType :=
  match explicitType with
  | some (c :: name) => .ofTypeName (some (c :: name))
  | _ => inferValueType value

end LuaAccessors
