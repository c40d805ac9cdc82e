import LuaAccessors.Proofs.Lexis.LineBreak
import LuaAccessors.Proofs.Lexis.Standalone
import LuaAccessors.Schema.Member

/-!
# Printed tables

Trees of table entries, and every text that writes such a tree as an assignment. A tree is written as
tokens; how the tokens are set apart is up to a layout, which puts blanks, line breaks and line comments
in front of every token inside the outer braces.

- `Identifier`, `Numeral`, `Scalar`, `Entry`: the trees;
- `fieldsOf`: the fields that a tree has;
- `Token`, `tokensOf`: the tokens of a tree;
- `GapItem`, `Layout`, `printAssignment`: the texts.
-/

namespace LuaAccessors.TableLiteral

open Lexis

/-! ## §1 Trees -/

/-- A name of ASCII letters, digits and underscores. -/
structure Identifier where
  first : Char
  others : Text
  isNameStart_first : isNameStart first = true
  isNamePart_others : ∀ c ∈ others, isNamePart c = true

def Identifier.text (i : Identifier) : Text := i.first :: i.others

/-- A decimal number: digits, a sign in front of them, and a point with further digits behind them. -/
structure Numeral where
  isNegative : Bool
  first : Char
  others : Text
  fraction : Option Text
  isDigit_first : first.isDigit = true
  isDigit_others : ∀ c ∈ others, c.isDigit = true
  isDigit_fraction : ∀ t ∈ fraction, ∀ c ∈ t, c.isDigit = true

def Numeral.unsigned (n : Numeral) : Text :=
  n.first :: (n.others ++ (n.fraction.map ('.' :: ·)).getD [])

def Numeral.text (n : Numeral) : Text := if n.isNegative then '-' :: n.unsigned else n.unsigned

/-- A value that is no table. -/
inductive Scalar where
  | number (n : Numeral)
  | boolean (b : Bool)
  | nil
  /-- A string between two copies of `quote`, in which every quote and every backslash is escaped. -/
  | string (quote : Char) (content : Text) (hquote : isQuote quote = true)
      (hcontent : Unbroken content)

def Scalar.text : Scalar → Text
  | .number n => n.text
  | .boolean b => if b then "true".toList else "false".toList
  | .nil => "nil".toList
  | .string quote content _ _ => quoted quote content

def Scalar.valueType : Scalar → ValueType
  | .number _ => .number
  | .boolean _ => .boolean
  | .nil => .nil
  | .string _ _ _ _ => .string

/-- An entry of a table. A comma may stand behind the last entry of a table. -/
inductive Entry where
  | positional (value : Scalar)
  | scalar (key : Identifier) (value : Scalar)
  | table (key : Identifier) (entries : List Entry) (trailing : Bool)

/-- Induction over the entries of a tree. -/
@[elab_as_elim]
theorem Entry.induction {motive : Entry → Prop}
    (positional : ∀ value, motive (.positional value))
    (scalar : ∀ key value, motive (.scalar key value))
    (table : ∀ key entries trailing, (∀ e ∈ entries, motive e) →
      motive (.table key entries trailing))
    (e : Entry) : motive e := by
  match e with
  | .positional value => exact positional value
  | .scalar key value => exact scalar key value
  | .table key entries trailing =>
    apply table
    intro d hd
    exact Entry.induction positional scalar table d
termination_by sizeOf e
decreasing_by
  have := List.sizeOf_lt_of_mem hd
  simp only [Entry.table.sizeOf_spec]
  omega

mutual

/-- The field of a keyed entry. -/
def Entry.fields : Entry → List Field
  | .positional _ => []
  | .scalar key value => [{ name := key.text, valueType := value.valueType }]
  | .table key entries _ =>
    [{ name := key.text, valueType := .table, fields := fieldsOf entries }]

/-- The fields of a table: its keyed entries, in order. -/
def fieldsOf : List Entry → List Field
  | [] => []
  | e :: es => e.fields ++ fieldsOf es

end

/-! ## §2 Tokens -/

/-- What a table is written with. -/
inductive Token where
  | opening
  | closing
  | comma
  | equals
  | key (i : Identifier)
  | scalar (value : Scalar)

def Token.text : Token → Text
  | .opening => ['{']
  | .closing => ['}']
  | .comma => [',']
  | .equals => ['=']
  | .key i => i.text
  | .scalar value => value.text

mutual

def Entry.tokens : Entry → List Token
  | .positional value => [.scalar value]
  | .scalar key value => [.key key, .equals, .scalar value]
  | .table key entries trailing =>
    .key key :: .equals :: .opening :: (tokensOf trailing entries ++ [.closing])

/-- The tokens between the braces of a table. -/
def tokensOf (trailing : Bool) : List Entry → List Token
  | [] => []
  | e :: es =>
    e.tokens ++ if es.isEmpty && !trailing then [] else .comma :: tokensOf trailing es

end

/-! ## §3 Layouts -/

/-- What may stand between two tokens. -/
inductive GapItem where
  /-- A blank, possibly a line break. -/
  | blank (c : Char) (hc : isBlank c = true)
  /-- A line comment, and the line break that ends it. -/
  | comment (t : Text) (lineBreak : Char) (ht : Unbroken t) (hlevel : bracketLevel t = none)
      (hbreak : isLineBreak lineBreak = true)

def GapItem.text : GapItem → Text
  | .blank c _ => [c]
  | .comment t lineBreak _ _ _ => '-' :: '-' :: (t ++ [lineBreak])

/-- What stands in front of each token. -/
abbrev Layout := Nat → List GapItem

/-- Tokens, the first of which is the one at position `n`, with what a layout puts in front of
them. -/
def lay (layout : Layout) (n : Nat) : List Token → Text
  | [] => []
  | t :: ts => (layout n).flatMap GapItem.text ++ (t.text ++ lay layout (n + 1) ts)

/-- The assignment of a table to a variable. -/
def printAssignment (name : Identifier) (entries : List Entry) (trailing : Bool) (layout : Layout) :
    Text :=
  name.text ++ r" = {".toList ++ lay layout 0 (tokensOf trailing entries ++ [.closing])

end LuaAccessors.TableLiteral
