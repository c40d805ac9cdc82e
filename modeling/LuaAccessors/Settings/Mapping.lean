import LuaAccessors.Settings.Scalar

/-!
# Mappings

A mapping of a settings document keeps its entries in the order in which their keys first came; a
later value for a key takes the place of an earlier one. Numbers and truth values are compared by what
they are worth, so `1`, `1.0` and `true` are one key.

- `sameKey`, `putEntry`, `lookupText`: entries by their keys;
- `Key`: what may stand in the place of a key;
- `Entries`: the entries of a mapping as they are read, those merged from other mappings first.
-/

namespace LuaAccessors.Settings

/-! ## §1 Entries by their keys -/

/-- What a number or a truth value is worth, as a fraction. -/
def worth? : Value → Option (Int × Nat)
  | .boolean b => some (if b then 1 else 0, 1)
  | .integer n => some (n, 1)
  | .float x => x.fraction?
  | _ => none

/-- Whether two values are one key in a mapping. -/
def sameKey (a b : Value) : Bool :=
  match worth? a, worth? b with
  | some (m, c), some (n, d) => m * d == n * c
  | none, none =>
    match a, b with
    | .null, .null => true
    | .text s, .text t => s == t
    | .float x, .float y => x == y
    | .other x, .other y => x == y
    | _, _ => false
  | _, _ => false

/-- The entries with `value` under `key`. -/
def putEntry (key value : Value) : List (Value × Value) → List (Value × Value)
  | [] => [(key, value)]
  | (k, v) :: rest =>
    if sameKey k key then (k, value) :: rest else (k, v) :: putEntry key value rest

/-- The value under a key that is a text. -/
def lookupText (key : Text) (entries : List (Value × Value)) : Option Value :=
  (entries.find? fun e => sameKey e.1 (.text key)).map (·.2)

/-- A number is one key with itself as a floating point number and with its truth value. -/
example : sameKey (.integer 1) (.float (.ofDecimal false 10 (-1))) = true
    ∧ sameKey (.boolean true) (.integer 1) = true
    ∧ sameKey (.integer 1) (.text "1".toList) = false := by decide +kernel

/-! ## §2 Keys -/

/-- What may stand in the place of a key: a value, or one of two plain words that are no values. -/
inductive Key where
  | value (v : Value)
  /-- The word `<<`, which takes over the entries of other mappings. -/
  | merge
  /-- The word `=`, which as a key is a text. -/
  | equals

namespace Key

/-- What a plain scalar is in the place of a key. -/
def ofPlain (t : Text) : Key :=
  if t = "<<".toList then .merge else if t = "=".toList then .equals else .value (plainScalar t)

/-- What stands in the place of a key, as a value of its own. -/
def toValue? : Key → Option Value
  | .value v => some v
  | .merge => none
  | .equals => none

end Key

/-! ## §3 Reading entries -/

/-- The entries of a mapping as they are read. -/
structure Entries where
  /-- Those taken over from other mappings. -/
  merged : List (Value × Value) := []
  /-- Those of the mapping itself. -/
  own : List (Value × Value) := []

namespace Entries

/-- The entries of mappings, those of later ones first. -/
def mergedEntries? : List Value → Option (List (Value × Value))
  | [] => some []
  | .mapping entries :: rest => (mergedEntries? rest).map (· ++ entries)
  | _ :: _ => none

/-- The entries with one more; a list or a mapping is no key. -/
def add? (e : Entries) (key : Key) (value : Value) : Option Entries :=
  match key, value with
  | .value (.list _), _ => none
  | .value (.mapping _), _ => none
  | .value k, v => some { e with own := e.own ++ [(k, v)] }
  | .equals, v => some { e with own := e.own ++ [(.text ['='], v)] }
  | .merge, .mapping entries => some { e with merged := e.merged ++ entries }
  | .merge, .list items =>
    (mergedEntries? items).map fun entries => { e with merged := e.merged ++ entries }
  | .merge, _ => none

/-- The mapping that the entries make up. -/
def toValue (e : Entries) : Value :=
  .mapping ((e.merged ++ e.own).foldl (fun entries p => putEntry p.1 p.2 entries) [])

end Entries

end LuaAccessors.Settings
