import LuaAccessors.Text.Basic

/-!
# Quoted literals

A quoted literal starts with a quote and ends just behind the next copy of that quote that no
backslash escapes; a line feed that no backslash escapes, or the end of the text, ends it early.
Positions count from the start of the text, and any character may serve as the quote.
-/

namespace LuaAccessors.Lexis

/-- How many of the characters behind an opening `quote` belong to the literal, its closing quote
included. -/
def quotedLength (quote : Char) : Text → Nat
  | [] => 0
  | '\\' :: _ :: rest => quotedLength quote rest + 2
  | c :: rest => if c = '\n' then 0 else if c = quote then 1 else quotedLength quote rest + 1

/-- The position just behind the quoted literal that starts at `start`, or nothing if the text has
no character there. -/
def quotedEnd? (t : Text) (start : Nat) : Option Nat :=
  match t.drop start with
  | [] => none
  | quote :: rest => some (start + 1 + quotedLength quote rest)

/-- A literal takes no more than there is. -/
theorem quotedLength_le (quote : Char) (t : Text) : quotedLength quote t ≤ t.length := by
  fun_induction quotedLength quote t <;> simp_all

end LuaAccessors.Lexis
