import LuaAccessors.Text.Basic

/-!
# Lines of a source

A line ends at a carriage return followed by a line feed, at a lone carriage return or at a lone
line feed, and at nothing else. `splitLines` yields one line more than there are line ends.
-/

namespace LuaAccessors.Lexis

/-- The lines of a source, without their ends. -/
def splitLines : Text → List Text
  | [] => [[]]
  | '\r' :: '\n' :: rest => [] :: splitLines rest
  | c :: rest =>
    if c = '\r' ∨ c = '\n' then [] :: splitLines rest
    else match splitLines rest with
      | [] => [[c]]
      | line :: lines => (c :: line) :: lines

/-- Every source has a first line. -/
theorem splitLines_ne_nil (source : Text) : splitLines source ≠ [] := by
  fun_cases splitLines source <;> simp_all

end LuaAccessors.Lexis
