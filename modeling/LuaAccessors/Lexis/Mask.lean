import LuaAccessors.Lexis.Mode

/-!
# Masked text

Masking shows a text with a blank in place of every character between the delimiters of a literal,
so that a brace, a comma or an equality sign that is still visible stands outside literals. Comments
have been removed from the text before; a long string may span lines.

A masked text has the length of the text, so positions in one are positions in the other; `marked`
pairs every character with what the mask shows of it, and cutting a marked text cuts both.
-/

namespace LuaAccessors.Lexis

/-- What the mask shows of a character. -/
def maskChar (c : Char) (role : Role) : Char := if role = .content then ' ' else c

/-- The text with its literals blanked out. -/
def mask (t : Text) : Text := List.zipWith maskChar t (roles false .code t)

/-- A text whose characters are paired with what the mask shows of them. -/
abbrev Marked := List (Char × Char)

/-- A text beside its mask. -/
def marked (t : Text) : Marked := t.zip (mask t)

/-- The text of a marked text. -/
def Marked.text (m : Marked) : Text := m.map (·.1)

/-- Masking keeps the length. -/
@[simp] theorem length_mask (t : Text) : (mask t).length = t.length := by simp [mask]

/-- Pairing a text with its mask loses nothing of the text. -/
@[simp] theorem text_marked (t : Text) : (marked t).text = t := by
  simp only [Marked.text, marked]
  exact List.map_fst_zip (by simp)

end LuaAccessors.Lexis
