import LuaAccessors.Schema.ValueType

/-!
# The members of a schema

What a Lua source declares at its top level: functions with their parameters, and variables, which
own a tree of fields if a table literal is assigned to them. Types that come from annotations are
kept as their text.
-/

namespace LuaAccessors

/-- A parameter of a function. -/
structure Parameter where
  /-- The name in the signature. -/
  name : Text
  /-- The annotated type. -/
  explicitType : Option Text := none
  deriving Repr, DecidableEq

/-- The kind of values that a parameter is annotated to take. -/
def Parameter.inferredType (p : Parameter) : ValueType := .ofTypeName p.explicitType

/-- A function declaration. -/
structure Function where
  /-- The declared name. -/
  name : Text
  /-- The parameters in the order of the signature. -/
  parameters : List Parameter := []
  /-- The annotated type of the result. -/
  returnType : Option Text := none
  /-- The function is local to its source. -/
  isLocal : Bool := false
  deriving Repr, DecidableEq

/-- A keyed entry of a table literal. -/
structure Field where
  /-- The text of the key. -/
  name : Text
  /-- The kind of the value. -/
  valueType : ValueType := .unknown
  /-- The keyed entries of the value if it is a table literal. -/
  fields : List Field := []
  /-- The annotated type. -/
  explicitType : Option Text := none
  deriving Repr, Inhabited

/-- An assignment to a variable. -/
structure Global where
  /-- The name of the variable. -/
  name : Text
  /-- The kind of the value. -/
  valueType : ValueType := .unknown
  /-- The keyed entries of the value if it is a table literal. -/
  fields : List Field := []
  /-- The annotated type. -/
  explicitType : Option Text := none
  /-- The variable is local to its source. -/
  isLocal : Bool := false
  deriving Repr, Inhabited

/-! ## Members of any kind -/

/-- Something that has a name in a schema. -/
inductive Member where
  | function (f : Function)
  | global (g : Global)
  | field (f : Field)
  deriving Repr, Inhabited

namespace Member

/-- The name of a member. -/
def name : Member → Text
  | .function f => f.name
  | .global g => g.name
  | .field f => f.name

/-- The member is local to its source; a field never is. -/
def isLocal : Member → Bool
  | .function f => f.isLocal
  | .global g => g.isLocal
  | .field _ => false

/-- The kind of values of a member. -/
def valueType : Member → ValueType
  | .function _ => .function
  | .global g => g.valueType
  | .field f => f.valueType

/-- The annotated type of the values of a member. -/
def explicitType : Member → Option Text
  | .function _ => none
  | .global g => g.explicitType
  | .field f => f.explicitType

/-- The fields that a member owns. -/
def fields : Member → List Field
  | .function _ => []
  | .global g => g.fields
  | .field f => f.fields

/-- The values of the member are tables. -/
def isTable (m : Member) : Bool := m.valueType == .table

end Member

end LuaAccessors
