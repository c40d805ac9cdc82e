import LuaAccessors.Text.Basic

/-!
# Declarations

Two shapes of a statement line declare a member: `[local] function name(a, b)` and
`[local] name = value`. A name is made of ASCII letters, digits and underscores; blanks of any kind
may stand between the words.

- `startsWithKeyword`: a keyword at the start of a text, as a whole word;
- `splitLocal`: the marker of a local declaration;
- `Declaration.function?`, `Declaration.assignment?`: the two shapes;
- `Declaration.ofLine?`: the declaration on a line.
-/

namespace LuaAccessors

/-! ## §1 Words -/

/-- Whether a text starts with a keyword that no letter, digit or underscore continues. -/
def startsWithKeyword (keyword t : Text) : Bool :=
  match keyword.isPrefixOf? t with
  | none => false
  | some [] => true
  | some (c :: _) => !(isAlphanumeric c || c == '_')

/-- What follows at least one blank at the start of a text. -/
def afterBlanks? : Text → Option Text
  | [] => none
  | c :: rest => if isBlank c then some (rest.dropWhile isBlank) else none

/-- The name at the start of a text, and what follows it. -/
def takeName? : Text → Option (Text × Text)
  | [] => none
  | c :: rest =>
    if isNameStart c then some (c :: rest.takeWhile isNamePart, rest.dropWhile isNamePart)
    else none

/-- The word that opens a function. -/
def functionKeyword : Text := "function".toList

/-- The word that makes a declaration local. -/
def localKeyword : Text := "local".toList

/-- Whether a line is marked as local, and the line without that mark: the word `local`, blanks, and
then a name. -/
def splitLocal (line : Text) : Bool × Text :=
  match (localKeyword.isPrefixOf? line).bind afterBlanks? with
  | some (c :: rest) => if isNameStart c then (true, c :: rest) else (false, line)
  | _ => (false, line)

/-! ## §2 The two shapes -/

/-- A declaration. -/
inductive Declaration where
  | function (name : Text) (parameterNames : List Text) (isLocal : Bool)
  | assignment (name : Text) (value : Text) (isLocal : Bool)
  deriving Repr, DecidableEq

/-- The parameter names in the text between two parentheses: its pieces between commas, trimmed,
without those that are empty. -/
def splitParameters (t : Text) : List Text :=
  ((Text.splitOn ',' t).map Text.strip).filter fun name => !name.isEmpty

/-- The value that follows the equality sign of an assignment: one line, the last one if blank lines
come before it, trimmed. A single line feed at the end does not count. -/
def assignedValue? (t : Text) : Option Text :=
  let body := if t.getLast? = some '\n' then t.dropLast else t
  let lines := Text.splitOn '\n' body
  let value := lines.getLastD []
  if value.isEmpty || !(lines.dropLast.all fun line => line.all isBlank) then none
  else some value.strip

namespace Declaration

/-- The function that a line declares. -/
def function? (line : Text) : Option Declaration := do
  let (isLocal, rest) := splitLocal line
  let rest ← functionKeyword.isPrefixOf? rest
  let rest ← afterBlanks? rest
  let (name, rest) ← takeName? rest
  match rest.dropWhile isBlank with
  | '(' :: rest =>
    if rest.contains ')' then
      some (.function name (splitParameters (rest.takeWhile (· != ')'))) isLocal)
    else none
  | _ => none

/-- The assignment that a line makes. -/
def assignment? (line : Text) : Option Declaration := do
  let (isLocal, rest) := splitLocal line
  let (name, rest) ← takeName? rest
  match rest.dropWhile isBlank with
  | '=' :: rest =>
    if rest.head? = some '=' then none
    else (assignedValue? rest).map fun value => .assignment name value isLocal
  | _ => none

/-- The declaration on a trimmed line without comments. -/
def ofLine? (line : Text) : Option Declaration := (function? line).or (assignment? line)

/-- Whether a function literal is assigned. -/
def isFunctionLiteral : Declaration → Bool
  | .function .. => false
  | .assignment _ value _ => startsWithKeyword functionKeyword value

/-- Whether a declaration is local. -/
def isLocal : Declaration → Bool
  | .function _ _ isLocal => isLocal
  | .assignment _ _ isLocal => isLocal

end Declaration

end LuaAccessors
