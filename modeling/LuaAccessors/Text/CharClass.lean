import LuaAccessors.Text.CodeRanges
import LuaAccessors.Text.DigitRanges
import LuaAccessors.Text.AlphanumericRanges
import LuaAccessors.Text.PrintableRanges

/-!
# Character classes

The classes of characters that the rules of this library speak of. Each is decided by the ASCII
rule below U+0080 and by a table from there on, so that a statement about ASCII text never meets a
table.

- `isBlank`: what trimming removes and what separates the words of a declaration;
- `isDecimalDigit`: what a number literal is written with;
- `isDigit`: what may not open an identifier;
- `isAlphanumeric`: what an identifier is made of, beside the underscore;
- `isPrintable`: what quoted text shows as it is.
-/

namespace LuaAccessors

/-! ## §1 Blanks -/

/-- Unicode white space, as the bidirectional classes define it: the ASCII controls from tab to
carriage return and from file separator to unit separator, and the spaces of every width. -/
def isBlank (c : Char) : Bool :=
  let n := c.toNat
  (9 ≤ n && n ≤ 13) || (28 ≤ n && n ≤ 32) || n == 0x85 || n == 0xA0 || n == 0x1680
    || (0x2000 ≤ n && n ≤ 0x200A) || n == 0x2028 || n == 0x2029 || n == 0x202F || n == 0x205F
    || n == 0x3000

/-! ## §2 Digits, letters, printable characters -/

/-- A decimal digit of any script. -/
def isDecimalDigit (c : Char) : Bool :=
  if c.toNat < 0x80 then c.isDigit else decimalDigitRanges.contains c.toNat

/-- A digit of any script, superscript and circled digits included. -/
def isDigit (c : Char) : Bool :=
  if c.toNat < 0x80 then c.isDigit
  else decimalDigitRanges.contains c.toNat || otherDigitRanges.contains c.toNat

/-- A letter of any script, or a character with a numeric value. -/
def isAlphanumeric (c : Char) : Bool :=
  if c.toNat < 0x80 then c.isAlphanum else alphanumericRanges.contains c.toNat

/-- A character that quoted text shows as it is. -/
def isPrintable (c : Char) : Bool :=
  if c.toNat < 0x80 then 0x20 ≤ c.toNat && c.toNat < 0x7F else printableRanges.contains c.toNat

/-- A letter of the ASCII alphabet or an underscore: what a declared name starts with. -/
def isNameStart (c : Char) : Bool := c.isAlpha || c == '_'

/-- An ASCII letter or digit or an underscore: what a declared name goes on with. -/
def isNamePart (c : Char) : Bool := c.isAlphanum || c == '_'

/-- A declared name goes on with whatever it may start with. -/
theorem isNamePart_of_isNameStart {c : Char} (h : isNameStart c = true) : isNamePart c = true := by
  simp only [isNameStart, isNamePart, Char.isAlphanum, Bool.or_eq_true] at h ⊢
  rcases h with h | h
  · exact .inl (.inl h)
  · exact .inr h

end LuaAccessors
