import LuaAccessors.Lexis.Mask

/-!
# The entries of a table literal

The content of a table is cut into entries at the commas that stand outside literals and outside
nested braces; entries that are blank are dropped. An entry is keyed if it shows an equality sign
outside literals with a name before it: the name is what precedes the first such sign, the value
what follows it. Other entries are positional.
-/

namespace LuaAccessors.TableLiteral

open Lexis

/-- The depth of braces behind a visible character; a closing brace at depth zero changes
nothing. -/
def braceDepth (depth : Nat) (shown : Char) : Nat :=
  if shown = '{' then depth + 1 else if shown = '}' then depth - 1 else depth

/-- The pieces of a marked text between its visible commas at depth zero. -/
def cutAtCommas (depth : Nat) : Marked → List Text
  | [] => [[]]
  | (c, shown) :: rest =>
    if shown = ',' ∧ depth = 0 then [] :: cutAtCommas depth rest
    else match cutAtCommas (braceDepth depth shown) rest with
      | [] => [[c]]
      | piece :: pieces => (c :: piece) :: pieces

/-- The entries of the content of a table, trimmed. -/
def splitEntries (content : Text) : List Text :=
  ((cutAtCommas 0 (marked content)).map Text.strip).filter fun entry => !entry.isEmpty

/-- The name and the value of a keyed entry. -/
def splitKeyed? (entry : Text) : Option (Text × Text) :=
  let m := marked entry
  match m.dropWhile (·.2 != '=') with
  | [] => none
  | _ :: value =>
    let name := (Marked.text (m.takeWhile (·.2 != '='))).strip
    if name.isEmpty then none else some (name, (Marked.text value).strip)

/-- The names and values of the keyed entries in the content of a table. -/
def keyedEntries (content : Text) : List (Text × Text) :=
  (splitEntries content).filterMap splitKeyed?

end LuaAccessors.TableLiteral
