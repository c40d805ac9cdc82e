import LuaAccessors.Cpp.ClassTree

/-!
# Headers

How the classes of a script are written as a C++ header. A block of lines is written at the left
margin and moved to the right as a whole where it is part of another one; empty lines stay empty.

- `Owner`: where the members of a class live, which decides the wording;
- `methodLines`, `propertyLines`, `tableLines`: the accessors of one member;
- `tableClassLines`: the class for a table, inner classes included;
- `header`: the text for a script.
-/

namespace LuaAccessors.Cpp

/-! ## §1 Lines -/

/-- A line from its pieces. -/
def line (pieces : List Text) : Text := pieces.flatten

/-- A line moved to the right by one level; an empty line stays empty. -/
def indentLine (l : Text) : Text := if l.isEmpty then [] else "    ".toList ++ l

/-- A block of lines moved to the right by one level. -/
def indent (block : List Text) : List Text := block.map indentLine

/-! ## §2 Accessors

Each kind of member has its own lines. The wording and the source of the value depend on where the class has its
members from; names do not.
-/

/-- Where the members of a class live. -/
inductive Owner where
  /-- In the state of the interpreter. -/
  | state
  /-- In a table. -/
  | table
  deriving Repr, DecidableEq

namespace Owner

/-- The member that the values are read from. -/
def source : Owner → Text
  | .state => "lua_"
  | .table => "table_"

/-- What a member is called in messages. -/
def kind : Owner → Text
  | .state => "global"
  | .table => "field"

/-- What is said of a value. -/
def valueDoc (o : Owner) (luaName : Text) : Text :=
  match o with
  | .state => line ["Gets or sets the '", luaName, "' global from Lua"]
  | .table => line ["Gets or sets the '", luaName, "' field"]

/-- What is said of the accessor of a table. -/
def tableDoc (o : Owner) (luaName : Text) : Text :=
  match o with
  | .state => line ["Access the '", luaName, "' table from Lua"]
  | .table => line ["Access the nested table '", luaName, "'"]

/-- What is said of the class for a table. -/
def classDoc (o : Owner) (luaName : Text) : Text :=
  match o with
  | .state => line ["Wrapper class for the '", luaName, "' Lua table"]
  | .table => line ["Wrapper for nested table '", luaName, "'"]

end Owner

/-- The declaration of an argument. -/
def argument (type : CppType) (name : Text) : Text :=
  if type.isReference then line ["const ", type.text, "& ", name] else line [type.text, " ", name]

/-- The method that calls a function. -/
def methodLines (f : Function) : List Text :=
  let cache := functionCacheName f.name
  let result := CppType.ofResult f.returnType
  let names := f.parameters.map fun p => parameterName p.name
  let arguments := f.parameters.map fun p =>
    argument (.ofParameter p.explicitType) (parameterName p.name)
  [line ["/// Calls the Lua function '", f.name, "'"],
   line [result.text, " ", pascalCase f.name, "(", Text.join ", " arguments, r") {"],
   line ["    if (!", cache, r") {"],
   line ["        sol::object fn = lua_[\"", f.name, "\"];"],
   line [r"        if (fn.get_type() != sol::type::function) {"],
   line ["            throw std::runtime_error(\"Lua global '", f.name, "' is not a function\");"],
   r"        }",
   line ["        ", cache, " = fn.as<sol::protected_function>();"],
   r"    }",
   line ["    sol::protected_function_result result = (*", cache, ")(", Text.join ", " names, ");"],
   r"    if (!result.valid()) {",
   "        sol::error err = result;",
   "        throw std::runtime_error(err.what());",
   r"    }"]
  ++ (if result = .void then [] else [line ["    return result.get<", result.text, ">();"]])
  ++ ([r"}", ""] : List Text)

/-- The pair of methods that read and write a value. -/
def propertyLines (o : Owner) (luaName : Text) (type : CppType) : List Text :=
  [line ["/// ", o.valueDoc luaName],
   line [type.text, " ", pascalCase luaName, r"() { return ", o.source, ".get<", type.text, ">(\"",
     luaName, r#""); }"#],
   line ["void ", setterName luaName, "(", argument type "value", r") { ", o.source, ".set(\"",
     luaName, r#"", value); }"#],
   ""]

/-- The method that wraps a table on its first call. -/
def tableLines (o : Owner) (luaName : Text) : List Text :=
  let cache := tableCacheName luaName
  [line ["/// ", o.tableDoc luaName],
   line [tableClassName luaName, "& ", pascalCase luaName, r"() {"],
   line ["    if (!", cache, r") {"],
   line ["        sol::object value = ", o.source, "[\"", luaName, "\"];"],
   r"        if (value.get_type() != sol::type::table) {",
   line ["            throw std::runtime_error(\"Lua ", o.kind, " '", luaName, "' is not a table\");"],
   r"        }",
   line ["        ", cache, ".emplace(value.as<sol::table>());"],
   r"    }",
   line ["    return *", cache, ";"],
   r"}",
   ""]

/-- The public methods for a member. -/
def accessorLines (o : Owner) : Accessor → List Text
  | .method f => methodLines f
  | .property luaName type => propertyLines o luaName type
  | .table luaName _ _ => tableLines o luaName

/-- The private member that keeps what a member's first call has found. -/
def cacheLines : Accessor → List Text
  | .method f =>
    [line ["std::optional<sol::protected_function> ", functionCacheName f.name, ";"]]
  | .property _ _ => []
  | .table luaName _ _ =>
    [line ["std::optional<", tableClassName luaName, "> ", tableCacheName luaName, ";"]]

/-! ## §3 Classes

A class for a table comes in front of the accessors that return it, inside the class that has the accessor.
-/

mutual

/-- The class for the table of an accessor. -/
def classLines (o : Owner) : Accessor → List Text
  | .method _ => []
  | .property _ _ => []
  | .table luaName members _ =>
    [line ["/// ", o.classDoc luaName],
     line ["class ", tableClassName luaName, r" {"],
     "public:"]
    ++ indent (innerClassLines members)
    ++ indent [
      line ["explicit ", tableClassName luaName,
        "(sol::table table) : table_(std::move(table)) {}"],
      ""]
    ++ indent (members.flatMap (accessorLines .table))
    ++ indent [
      "/// Gets the underlying sol::table for advanced access",
      "sol::table& RawTable() { return table_; }",
      ""]
    ++ (["private:"] : List Text)
    ++ indent ("sol::table table_;" :: members.flatMap cacheLines)
    ++ ([r"};", ""] : List Text)

/-- The classes for the tables among the members of a table. -/
def innerClassLines : List Accessor → List Text
  | [] => []
  | a :: rest => classLines .table a ++ innerClassLines rest

end

/-- The class for a script. -/
def scriptClassLines (c : ScriptClass) : List Text :=
  let name := scriptClassName c.stem
  [line ["/// Strongly-typed bindings for ", c.stem, ".lua"],
   line ["class ", name, r" {"],
   "public:"]
  ++ indent (c.members.flatMap (classLines .state))
  ++ indent [
    line ["/// Creates a binding wrapper over a Lua state that has already run ", c.stem, ".lua"],
    line ["explicit ", name, "(sol::state_view lua) : lua_(lua) {}"],
    ""]
  ++ indent (c.members.flatMap (accessorLines .state))
  ++ (["private:"] : List Text)
  ++ indent ("sol::state_view lua_;" :: c.members.flatMap cacheLines)
  ++ ([r"};", ""] : List Text)

/-! ## §4 Files -/

/-- The lines in front of the namespace. -/
def preamble (stem : Text) : List Text := [
  "// <auto-generated>",
  line ["// This file was generated by lua2bind from ", stem, ".lua"],
  "// Do not edit this file manually.",
  "// </auto-generated>",
  "",
  "#pragma once",
  "",
  "#include <optional>",
  "#include <stdexcept>",
  "#include <string>",
  "#include <utility>",
  "",
  "#include <sol/sol.hpp>",
  ""]

/-- The header with the class for a script inside a namespace. -/
def header (ns : Text) (c : ScriptClass) : Text :=
  Text.join ['\n'] <|
    preamble c.stem
    ++ [line ["namespace ", ns, r" {"], ""]
    ++ scriptClassLines c
    ++ [line [r"}  // namespace ", ns], ""]

end LuaAccessors.Cpp
