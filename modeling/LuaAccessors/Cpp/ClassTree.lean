import LuaAccessors.Cpp.Claim
import LuaAccessors.Cpp.TypeName
import LuaAccessors.Schema.ParseResult

/-!
# The classes of a header

A header declares one class for its script and, inside it, one class per table, nested as the tables
are. What each class declares is settled here; how it is written is settled where headers are
printed.

- `Accessor`: a member of a class, a table with the class for it included;
- `tableAccessor`: the class for a table, from its fields;
- `ScriptClass.ofResult`: the class for a script, from its schema;
- `ScriptClass.skipped`: the dotted names of the members that no class declares.
-/

namespace LuaAccessors.Cpp

/-! ## §1 Accessors -/

/-- A member that a class declares. -/
inductive Accessor where
  /-- A method that calls a function. -/
  | method (f : Function)
  /-- A pair of methods that read and write a value. -/
  | property (luaName : Text) (type : CppType)
  /-- A method that wraps a table in the class that declares `members`; the members of the names
  `leftOut` are not declared. -/
  | table (luaName : Text) (members : List Accessor) (leftOut : List Text)
  deriving Repr, Inhabited

/-- The names that a class for a table has taken before its members claim theirs. -/
def tableReserved (luaName : Text) : List Text := [tableClassName luaName, rawTableName]

/-- How the fields of a table claim the names of the class for it. -/
def tableClaims (luaName : Text) (fields : List Field) : Claims :=
  claim (tableReserved luaName) (exposed (fields.map .field))

/-- A member that has got its names in the class for a table is one of the table's fields. -/
theorem mem_of_mem_tableClaims {luaName : Text} {fields : List Field} {m : Member}
    (h : m ∈ (tableClaims luaName fields).claimed) : ∃ f ∈ fields, m = .field f := by
  have h := mem_of_mem_exposed (mem_of_mem_claimed h)
  obtain ⟨f, hf, rfl⟩ := List.mem_map.1 h
  exact ⟨f, hf, rfl⟩

/-- The accessor of a table, with the class that its fields make up. -/
def tableAccessor (luaName : Text) (fields : List Field) : Accessor :=
  let claims := tableClaims luaName fields
  .table luaName
    (claims.claimed.attach.map fun ⟨m, _hm⟩ =>
      if m.isTable then tableAccessor m.name m.fields
      else .property m.name (.ofValue m.valueType m.explicitType))
    (claims.leftOut.map Member.name)
termination_by sizeOf fields
decreasing_by
  obtain ⟨f, hf, rfl⟩ := mem_of_mem_tableClaims _hm
  have := List.sizeOf_lt_of_mem hf
  cases f
  simp only [Member.fields, Field.mk.sizeOf_spec] at this ⊢
  omega

/-- The accessor of a member. -/
def Accessor.ofMember : Member → Accessor
  | .function f => .method f
  | m =>
    if m.isTable then tableAccessor m.name m.fields
    else .property m.name (.ofValue m.valueType m.explicitType)

/-! ## §2 The class for a script -/

/-- The class for a script. -/
structure ScriptClass where
  /-- The name of the script without its extension. -/
  stem : Text
  /-- What the class declares, methods first. -/
  members : List Accessor
  /-- The names of the members that it does not declare. -/
  leftOut : List Text
  deriving Repr

namespace ScriptClass

/-- How the members of a script claim the names of its class, functions first. -/
def claims (r : ParseResult) : Claims :=
  claim [scriptClassName r.fileName]
    (exposed (r.functions.map .function) ++ exposed (r.globals.map .global))

/-- The class for the script of a schema. -/
def ofResult (r : ParseResult) : ScriptClass :=
  { stem := r.fileName
    members := (claims r).claimed.map .ofMember
    leftOut := (claims r).leftOut.map Member.name }

end ScriptClass

/-! ## §3 Members that no class declares -/

mutual

/-- The members that the classes in an accessor do not declare, under the dotted path `scope`. -/
def Accessor.skipped (scope : Text) : Accessor → List Text
  | .method _ => []
  | .property _ _ => []
  | .table luaName members leftOut =>
    let scope := scope ++ luaName ++ ['.']
    leftOut.map (scope ++ ·) ++ skippedIn scope members

/-- The members that the classes in several accessors do not declare. -/
def skippedIn (scope : Text) : List Accessor → List Text
  | [] => []
  | a :: rest => a.skipped scope ++ skippedIn scope rest

end

/-- The members that no class declares: those of the script class, then those of the classes inside
it, outer ones before inner ones. -/
def ScriptClass.skipped (c : ScriptClass) : List Text := c.leftOut ++ skippedIn [] c.members

end LuaAccessors.Cpp
