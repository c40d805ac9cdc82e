import LuaAccessors.Lexis.LongBracket

/-!
# Tokens of Lua

A Lua chunk as the sequence of its tokens, without blanks and comments. Only what the grammar needs
is kept: a name, a number or a string is a token of its kind, and keywords and symbols are marks.
Reading fails at a character that starts no token and at a literal or a block comment that is not
closed.
-/

namespace LuaAccessors.Lua

/-- A token of a Lua chunk. -/
inductive Token where
  | name
  | number
  | string
  /-- A keyword or a symbol. -/
  | mark (t : Text)
  deriving Repr, DecidableEq

/-- The keywords. -/
def keywords : List Text := [
  "and", "break", "do", "else", "elseif", "end", "false", "for", "function", "if", "in", "local",
  "nil", "not", "or", "repeat", "return", "then", "true", "until", "while"].map String.toList

/-- The symbols, longer ones before those they start with. -/
def symbols : List Text := [
  "...", "..", "==", "~=", "<=", ">=", "<", ">", "=", "+", "-", "*", "/", "%", "^", "#", "(", ")",
  r"{", r"}", "[", "]", ";", ":", ",", "."].map String.toList

/-- The token that a word is. -/
def wordToken (word : Text) : Token := if keywords.contains word then .mark word else .name

/-- What follows the next text that closes a long bracket. -/
def afterCloser? (level : Nat) : Text → Option Text
  | [] => none
  | c :: rest =>
    match (Lexis.bracketCloser level).isPrefixOf? (c :: rest) with
    | some rest => some rest
    | none => afterCloser? level rest

/-- What follows the next copy of `quote` that no backslash escapes, on the same line; an escaped
line end does not end the line. -/
def afterQuote? (quote : Char) : Text → Option Text
  | [] => none
  | '\\' :: '\r' :: '\n' :: rest => afterQuote? quote rest
  | '\\' :: _ :: rest => afterQuote? quote rest
  | c :: rest =>
    if c = quote then some rest
    else if c = '\n' ∨ c = '\r' then none
    else afterQuote? quote rest

/-- What follows the digits at the start of a text, of which there must be one. -/
def afterDigits? (isDigit : Char → Bool) : Text → Option Text
  | [] => none
  | c :: rest => if isDigit c then some (rest.dropWhile isDigit) else none

/-- What follows digits with at most one point among them; one digit at least. -/
def afterPointed? (isDigit : Char → Bool) (t : Text) : Option Text :=
  match afterDigits? isDigit t, t with
  | some ('.' :: rest), _ => some (rest.dropWhile isDigit)
  | some rest, _ => some rest
  | none, '.' :: rest => afterDigits? isDigit rest
  | none, _ => none

/-- What follows the exponent at the start of a text, if there is one: a letter, small or capital, and
digits, perhaps with a sign. -/
def afterExponent (letter : Char) (t : Text) : Text :=
  match t with
  | [] => []
  | c :: rest =>
    if c.toLower = letter then
      let digits := match rest with
        | sign :: more => if sign = '-' ∨ sign = '+' then more else rest
        | [] => []
      (afterDigits? Char.isDigit digits).getD t
    else t

/-- A hexadecimal digit. -/
def isHexDigit (c : Char) : Bool := c.isDigit || ('a' ≤ c.toLower && c.toLower ≤ 'f')

/-- What follows the longest number at the start of a text, if one stands there. -/
def afterNumber? (t : Text) : Option Text :=
  let hexadecimal := match t with
    | '0' :: x :: rest =>
      if x.toLower = 'x' then (afterPointed? isHexDigit rest).map (afterExponent 'p') else none
    | _ => none
  hexadecimal.or ((afterPointed? Char.isDigit t).map (afterExponent 'e'))

/-- A number has one point at most, and a prefix for base sixteen needs digits behind it. -/
example : afterNumber? "1.2.3".toList = some ".3".toList
    ∧ afterNumber? "0x".toList = some "x".toList
    ∧ afterNumber? ".5e-1x".toList = some "x".toList := by decide

/-- A character between tokens. -/
def isSpace (c : Char) : Bool := c == ' ' || (9 ≤ c.toNat && c.toNat ≤ 13)

/-- The symbol at the start of a text, and what follows it. -/
def symbol? (t : Text) : Option (Text × Text) :=
  symbols.findSome? fun s => (s.isPrefixOf? t).map fun rest => (s, rest)

/-- The tokens of a text, for at most `bound` tokens and gaps between them. -/
def tokensWithin? (bound : Nat) (t : Text) : Option (List Token) :=
  match bound, t with
  | _, [] => some []
  | 0, _ => none
  | bound + 1, c :: rest =>
    if isSpace c then tokensWithin? bound (rest.dropWhile isSpace)
    else if c = '-' ∧ rest.head? = some '-' then
      match Lexis.bracketLevel rest.tail with
      | some level =>
        (afterCloser? level (rest.drop (level + 3))).bind (tokensWithin? bound)
      | none => tokensWithin? bound (rest.dropWhile fun d => d != '\n' && d != '\r')
    else if c = '"' ∨ c = '\'' then do
      let tokens ← tokensWithin? bound (← afterQuote? c rest)
      return .string :: tokens
    else if isNameStart c then do
      let word := c :: rest.takeWhile isNamePart
      let tokens ← tokensWithin? bound (rest.dropWhile isNamePart)
      return wordToken word :: tokens
    else
      match afterNumber? (c :: rest), Lexis.bracketLevel (c :: rest) with
      | some rest, _ => do
        let tokens ← tokensWithin? bound rest
        return .number :: tokens
      | none, some level => do
        let tokens ← tokensWithin? bound (← afterCloser? level (rest.drop (level + 1)))
        return .string :: tokens
      | none, none => do
        let (s, rest) ← symbol? (c :: rest)
        let tokens ← tokensWithin? bound rest
        return .mark s :: tokens

/-- What follows the line at the start of a chunk that names its interpreter, if there is one. -/
def afterInterpreterLine : Text → Text
  | '#' :: '!' :: rest => rest.dropWhile fun c => c != '\n' && c != '\r'
  | t => t

/-- The tokens of a chunk. -/
def tokens? (t : Text) : Option (List Token) :=
  tokensWithin? (t.length + 1) (afterInterpreterLine t)

end LuaAccessors.Lua
