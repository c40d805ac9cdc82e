import LuaAccessors.Text.CharClass

/-!
# Texts

A text is a sequence of code points; lengths and positions count code points. This file holds the
cutting and joining operations that the rest of the library is written with:

- trimming (`strip`, `trimBoth`), which removes blanks or one character at both ends;
- cutting at a character (`splitOn`, `splitWhere`) and joining with a separator (`join`);
- looking for one text inside another and replacing (`isInfix`, `replaceChar`,
  `normalizeLineEnds`).
-/

namespace LuaAccessors

/-- A sequence of code points. -/
abbrev Text := List Char

/-- A string literal stands for the text of its characters. -/
instance : Coe String Text := ⟨String.toList⟩

namespace Text

/-! ## §1 Trimming -/

/-- The text without the longest end whose characters all satisfy `p`. -/
def dropEndWhile (p : Char → Bool) (t : Text) : Text := (t.reverse.dropWhile p).reverse

/-- The text without the blanks at its start and its end. -/
def strip (t : Text) : Text := dropEndWhile isBlank (t.dropWhile isBlank)

/-- The text without the copies of `c` at its start and its end. -/
def trimBoth (c : Char) (t : Text) : Text := dropEndWhile (· == c) (t.dropWhile (· == c))

/-! ## §2 Cutting and joining -/

/-- The pieces of a text between the characters that satisfy `p`, empty ones included; there is
always one piece more than such characters. -/
def splitWhere (p : Char → Bool) : Text → List Text
  | [] => [[]]
  | c :: rest =>
    if p c then [] :: splitWhere p rest
    else match splitWhere p rest with
      | [] => [[c]]
      | piece :: pieces => (c :: piece) :: pieces

/-- The pieces of a text between the copies of `c`. -/
def splitOn (c : Char) (t : Text) : List Text := splitWhere (· == c) t

/-- Cutting yields at least one piece. -/
theorem splitWhere_ne_nil (p : Char → Bool) (t : Text) : splitWhere p t ≠ [] := by
  fun_cases splitWhere p t <;> simp_all

/-- The texts one after the other with `separator` between two neighbours. -/
def join (separator : Text) : List Text → Text
  | [] => []
  | [t] => t
  | t :: u :: rest => t ++ separator ++ join separator (u :: rest)

/-- A text is its pieces joined by the character that it was cut at. -/
theorem join_splitOn (c : Char) (t : Text) : join [c] (splitOn c t) = t := by
  unfold splitOn
  induction t with
  | nil => rfl
  | cons d rest ih =>
    obtain ⟨piece, pieces, hp⟩ := List.exists_cons_of_ne_nil (splitWhere_ne_nil (· == c) rest)
    rw [hp] at ih
    by_cases h : d = c
    · subst h
      simp [splitWhere, hp, join, ih]
    · have hd : (d == c) = false := beq_eq_false_iff_ne.2 h
      cases pieces <;> simp_all [splitWhere, join]

/-! ## §3 Searching and replacing -/

/-- Whether `needle` occurs in the text as a run of neighbours. -/
def isInfix (needle : Text) : Text → Bool
  | [] => needle.isEmpty
  | c :: rest => needle.isPrefixOf (c :: rest) || isInfix needle rest

/-- Searching finds exactly the texts that occur. -/
theorem isInfix_iff {needle t : Text} : isInfix needle t = true ↔ needle <:+: t := by
  induction t with
  | nil => simp [isInfix]
  | cons c rest ih => simp [isInfix, ih, List.infix_cons_iff]

/-- The text with every `old` replaced by `new`. -/
def replaceChar (old new : Char) (t : Text) : Text := t.map fun c => if c = old then new else c

/-- The text with every line end of one or two characters turned into a line feed. -/
def normalizeLineEnds : Text → Text
  | [] => []
  | '\r' :: '\n' :: rest => '\n' :: normalizeLineEnds rest
  | c :: rest => (if c = '\r' then '\n' else c) :: normalizeLineEnds rest

/-- The decimal numeral of a natural number. -/
def ofNat (n : Nat) : Text := (Nat.toDigits 10 n)

/-- The decimal numeral of an integer. -/
def ofInt : Int → Text
  | .ofNat n => ofNat n
  | .negSucc n => '-' :: ofNat (n + 1)

/-- Whether one text comes before another when code points are compared from left to right. -/
def before : Text → Text → Bool
  | _, [] => false
  | [], _ :: _ => true
  | c :: s, d :: t => c.toNat < d.toNat || (c == d && before s t)

end Text

end LuaAccessors
