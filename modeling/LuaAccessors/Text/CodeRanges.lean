/-!
# Tables over code points

Properties of characters are data of a standard. This file holds the two shapes in which the tables
of the library write them down, and how a code point is looked up in each:

- `CodeRanges`: a set of code points as closed intervals in ascending order;
- `CaseRun`: code points that all move by the same distance under a case mapping.
-/

namespace LuaAccessors

/-! ## §1 Sets of code points -/

/-- A set of code points as closed intervals, in ascending order. -/
abbrev CodeRanges := List (Nat × Nat)

/-- Membership in a set of code points; the search ends at the first interval that starts above
the code point. -/
def CodeRanges.contains : CodeRanges → Nat → Bool
  | [], _ => false
  | (low, high) :: rest, n =>
    if n < low then false else if n ≤ high then true else CodeRanges.contains rest n

/-! ## §2 Case mappings -/

/-- The code points `first`, `first + step`, …, `last`, each of which maps to the code point
`shift` further on. -/
structure CaseRun where
  first : Nat
  last : Nat
  step : Nat
  shift : Int
  deriving Repr, DecidableEq

/-- The code point a list of runs in ascending order maps `n` to, if one of them covers it. -/
def CaseRun.find? : List CaseRun → Nat → Option Nat
  | [], _ => none
  | run :: rest, n =>
    if n < run.first then none
    else if n ≤ run.last then
      if (n - run.first) % run.step = 0 then some (n + run.shift).toNat else none
    else CaseRun.find? rest n

end LuaAccessors
