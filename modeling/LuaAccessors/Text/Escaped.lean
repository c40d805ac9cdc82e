import LuaAccessors.Text.Basic

/-!
# Quoted text

A quoted text stands between single quotes, or between double quotes if it holds single quotes and
no double ones. The quote and the backslash are escaped by a backslash, line ends and tabs have their
usual escapes, and every other character that does not print is written as its code point in
hexadecimal digits.
-/

namespace LuaAccessors

/-- The hexadecimal digits of `n`, filled up with zeros to `width`. -/
def hexDigits (width n : Nat) : Text :=
  let ds := Nat.toDigits 16 n
  List.replicate (width - ds.length) '0' ++ ds

/-- A character as it stands between two copies of `quote`. -/
def escapeChar (quote c : Char) : Text :=
  if c = quote ∨ c = '\\' then ['\\', c]
  else if c = '\n' then ['\\', 'n']
  else if c = '\r' then ['\\', 'r']
  else if c = '\t' then ['\\', 't']
  else if isPrintable c then [c]
  else if c.toNat < 0x100 then '\\' :: 'x' :: hexDigits 2 c.toNat
  else if c.toNat < 0x10000 then '\\' :: 'u' :: hexDigits 4 c.toNat
  else '\\' :: 'U' :: hexDigits 8 c.toNat

/-- A text between quotes. -/
def quoteText (t : Text) : Text :=
  let quote := if t.contains '\'' && !t.contains '"' then '"' else '\''
  quote :: t.flatMap (escapeChar quote) ++ [quote]

end LuaAccessors
