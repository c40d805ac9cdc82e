import LuaAccessors.Text.Dictionary

/-!
# Annotations

Directive lines declare types for the declaration that follows them: `---@type T`, `---@return T`,
`---@param name T` and `---@field name T`. Question marks behind a name, which mark it as optional,
are dropped. A later directive replaces an earlier one of the same kind and name.

- `Directive.ofText?`: what one directive line says;
- `Annotations`: what a block of directives says;
- `Collector`: the directives that wait for their declaration.
-/

namespace LuaAccessors

/-! ## §1 Directives -/

/-- What one directive declares. -/
inductive Directive where
  | declaredType (type : Text)
  | returnType (type : Text)
  | parameterType (name type : Text)
  | fieldType (name type : Text)
  deriving Repr, DecidableEq

/-- The word that stands behind at least one blank, and what follows it. -/
def nextWord? : Text → Option (Text × Text)
  | [] => none
  | c :: rest =>
    if isBlank c then
      let rest := rest.dropWhile isBlank
      let word := rest.takeWhile (!isBlank ·)
      if word.isEmpty then none else some (word, rest.drop word.length)
    else none

/-- A name without the question marks behind it. -/
def requiredName (name : Text) : Text := name.dropEndWhile (· == '?')

/-- A directive of one type behind its keyword. -/
def typeDirective? (keyword t : Text) (directive : Text → Directive) : Option Directive := do
  let (type, _) ← nextWord? (← keyword.isPrefixOf? t)
  return directive type

/-- A directive of a name and a type behind its keyword. -/
def namedDirective? (keyword t : Text) (directive : Text → Text → Directive) :
    Option Directive := do
  let (name, rest) ← nextWord? (← keyword.isPrefixOf? t)
  let (type, _) ← nextWord? rest
  return directive (requiredName name) type

/-- What a directive line declares, if it is of a known shape. -/
def Directive.ofText? (t : Text) : Option Directive :=
  (namedDirective? "---@param".toList t .parameterType).or <|
  (typeDirective? "---@return".toList t .returnType).or <|
  (typeDirective? "---@type".toList t .declaredType).or <|
  namedDirective? "---@field".toList t .fieldType

/-! ## §2 Blocks of directives -/

/-- The types that a block of directives declares. -/
structure Annotations where
  /-- The type of a variable. -/
  declaredType : Option Text := none
  /-- The type of a function's result. -/
  returnType : Option Text := none
  /-- The types of parameters by name. -/
  parameterTypes : Dictionary Text := []
  /-- The types of table fields by name. -/
  fieldTypes : Dictionary Text := []
  deriving Repr, DecidableEq

namespace Annotations

/-- The types after one more directive. -/
def add (a : Annotations) : Directive → Annotations
  | .declaredType type => { a with declaredType := some type }
  | .returnType type => { a with returnType := some type }
  | .parameterType name type => { a with parameterTypes := a.parameterTypes.put name type }
  | .fieldType name type => { a with fieldTypes := a.fieldTypes.put name type }

/-- The types that directive lines declare; a line of no known shape declares none. -/
def ofDirectives (lines : List Text) : Annotations :=
  (lines.filterMap Directive.ofText?).foldl add {}

end Annotations

/-! ## §3 Waiting directives -/

/-- The directive lines that wait for the next line of code, in source order. -/
structure Collector where
  pending : List Text := []
  deriving Repr, DecidableEq

namespace Collector

/-- Some directive is waiting. -/
def isCollecting (c : Collector) : Bool := !c.pending.isEmpty

/-- One more directive line waits. -/
def push (c : Collector) (line : Text) : Collector := ⟨c.pending ++ [line]⟩

/-- What the waiting directives declare; none waits afterwards. -/
def take (c : Collector) : Annotations × Collector := (.ofDirectives c.pending, {})

end Collector

end LuaAccessors
