import LuaAccessors.Decimal.Shortest
import LuaAccessors.Text.Escaped

/-!
# Values of settings documents

A document of settings is made of nulls, truth values, numbers, texts, lists and mappings, and of
values of other kinds, such as dates, bytes and sets, of which only a few facts matter. A place that
expects a text may be handed any of them.

- `OtherValue`: what matters of a value of another kind;
- `Value.shown`: a value as it stands inside a list or a mapping, texts quoted;
- `Value.text?`: a value as a text, which a text is itself; a value with too long a number in it has none;
- `Value.truthy`: whether a value counts as true;
- `Value.typeName`: the name of its type in messages.
-/

namespace LuaAccessors

/-! ## §1 Kinds of values -/

/-- A value that is neither a number nor a text, nor made of lists and mappings. -/
structure OtherValue where
  /-- The name of its type. -/
  typeName : Text
  /-- The value as a text. -/
  text : Text
  /-- The value as it stands inside another one. -/
  shown : Text
  /-- No number in the value is too long to be written. -/
  isWritable : Bool := true
  /-- The value counts as true. -/
  isTruthy : Bool := true
  deriving Repr, DecidableEq

/-- A value of a settings document. -/
inductive Value where
  | null
  | boolean (b : Bool)
  | integer (n : Int)
  | float (x : Binary64)
  | text (t : Text)
  | list (items : List Value)
  | mapping (entries : List (Value × Value))
  /-- A date, some bytes, a set, or whatever else there may be. -/
  | other (o : OtherValue)
  deriving Repr, Inhabited

namespace Value

/-! ## §2 Values as texts

A list and a mapping are written with what is in them, so the functions on values follow the nesting:
each has one part for values, one for the items of a list and one for the entries of a mapping. -/

mutual

/-- A value as it stands inside another one. -/
def shown : Value → Text
  | .null => "None".toList
  | .boolean b => if b then "True".toList else "False".toList
  | .integer n => Text.ofInt n
  | .float x => x.toText
  | .text t => quoteText t
  | .list items => '[' :: Text.join ", ".toList (shownItems items) ++ [']']
  | .mapping entries => '{' :: Text.join ", ".toList (shownEntries entries) ++ ['}']
  | .other o => o.shown

/-- The items of a list as they stand in it. -/
def shownItems : List Value → List Text
  | [] => []
  | v :: rest => v.shown :: shownItems rest

/-- The entries of a mapping as they stand in it. -/
def shownEntries : List (Value × Value) → List Text
  | [] => []
  | (k, v) :: rest => (k.shown ++ ": ".toList ++ v.shown) :: shownEntries rest

end

/-- How many digits an integer may have to be written in decimal digits. -/
def maxDigits : Nat := 4300

mutual

/-- Whether a value can be written: no integer in it is too long. -/
def isWritable : Value → Bool
  | .integer n => n.natAbs < Nat.pow 10 maxDigits
  | .list items => areItemsWritable items
  | .mapping entries => areEntriesWritable entries
  | .other o => o.isWritable
  | .null | .boolean _ | .float _ | .text _ => true

/-- Whether the items of a list can be written. -/
def areItemsWritable : List Value → Bool
  | [] => true
  | v :: rest => v.isWritable && areItemsWritable rest

/-- Whether the entries of a mapping can be written. -/
def areEntriesWritable : List (Value × Value) → Bool
  | [] => true
  | (k, v) :: rest => k.isWritable && v.isWritable && areEntriesWritable rest

end

/-- What a value that can be written is as a text. -/
def writtenText : Value → Text
  | .text t => t
  | .other o => o.text
  | v => v.shown

/-- A value as a text, if it can be written. -/
def text? (v : Value) : Option Text := if v.isWritable then some v.writtenText else none

/-- A number is written alone and in a list, unless it is too long. -/
example : text? (.integer 12) = some ['1', '2']
    ∧ text? (.list [.integer (Nat.pow 16 4000)]) = none := by decide +kernel

/-! ## §3 Truth and types -/

/-- Whether a value counts as true: all but null, false, zero, and what is empty. -/
def truthy : Value → Bool
  | .null => false
  | .boolean b => b
  | .integer n => n != 0
  | .float x => !x.isZero
  | .text t => !t.isEmpty
  | .list items => !items.isEmpty
  | .mapping entries => !entries.isEmpty
  | .other o => o.isTruthy

/-- The name of a value's type. -/
def typeName : Value → Text
  | .null => "NoneType".toList
  | .boolean _ => "bool".toList
  | .integer _ => "int".toList
  | .float _ => "float".toList
  | .text _ => "str".toList
  | .list _ => "list".toList
  | .mapping _ => "dict".toList
  | .other o => o.typeName

/-- The value is null. -/
def isNull : Value → Bool
  | .null => true
  | _ => false

theorem isNull_eq_true_iff {v : Value} : v.isNull = true ↔ v = .null := by
  cases v <;> simp [isNull]

end Value

end LuaAccessors
