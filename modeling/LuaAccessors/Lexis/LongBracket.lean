import LuaAccessors.Text.Basic

/-!
# Long brackets

A long bracket of level `k` opens with `[`, `k` equality signs and `[`, and closes with `]`, `k`
equality signs and `]`. It delimits long strings, and block comments after `--`.
-/

namespace LuaAccessors.Lexis

/-- The level of the long bracket that a text starts with, if it starts with one. -/
def bracketLevel : Text → Option Nat
  | '[' :: rest =>
    let signs := rest.takeWhile (· == '=')
    if (rest.drop signs.length).head? = some '[' then some signs.length else none
  | _ => none

/-- The level of the long bracket that opens at a position of a text. -/
def bracketLevelAt (t : Text) (position : Nat) : Option Nat := bracketLevel (t.drop position)

/-- The text that opens a long bracket of a level. -/
def bracketOpener (level : Nat) : Text := '[' :: List.replicate level '=' ++ ['[']

/-- The text that closes a long bracket of a level. -/
def bracketCloser (level : Nat) : Text := ']' :: List.replicate level '=' ++ [']']

/-- A text that starts with an opener of level `k` has a long bracket of level `k` there. -/
theorem bracketLevel_opener (level : Nat) (rest : Text) :
    bracketLevel (bracketOpener level ++ rest) = some level := by
  simp [bracketLevel, bracketOpener]

end LuaAccessors.Lexis
