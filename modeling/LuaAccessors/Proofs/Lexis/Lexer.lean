import LuaAccessors.Lexis.Mode
import LuaAccessors.Proofs.Lexis.LineBreak

/-!
# A lexer for whole sources

A reference for everything that is decided line by line: one lexer reads a whole source from left to
right, line ends included, and cuts it into lexemes. It knows the region that it is in and the depth
of table braces, and nothing about lines; the lines of a source are its lexemes cut at the line ends.

- `Region`, `Position`: what the lexer knows at a place in the source;
- `Lexeme`, `Position.next`, `lex`: the lexemes of a source;
- `LexedLine`, `lexedLines`: the lexemes of each line, with the position at its start.
-/

namespace LuaAccessors.Lexis

/-! ## §1 Regions and positions -/

/-- What a place in a source is in the middle of. -/
inductive Region where
  | code
  | quoted (quote : Char)
  | lineComment
  | blockComment (level : Nat)
  | longString (level : Nat)
  deriving Repr, DecidableEq

namespace Region

/-- Only block comments and long strings go on behind a line end. -/
def spansLines : Region → Bool
  | .blockComment _ => true
  | .longString _ => true
  | _ => false

/-- The region behind a line end. -/
def afterLineEnd (r : Region) : Region := if r.spansLines then r else .code

end Region

/-- What the lexer knows at a place in a source. -/
structure Position where
  region : Region := .code
  /-- The depth of table braces. -/
  depth : Nat := 0
  deriving Repr, DecidableEq

/-! ## §2 Lexemes -/

/-- What a lexeme is part of. -/
inductive Kind where
  | code
  /-- A quoted or long string, its delimiters included. -/
  | literal
  /-- A comment, its delimiters included. -/
  | comment
  | lineEnd
  deriving Repr, DecidableEq

/-- A piece of a source, and the position behind it. -/
structure Lexeme where
  text : Text
  kind : Kind
  after : Position
  deriving Repr, DecidableEq

/-- The characters of a lexeme, each with the kind of the lexeme. -/
def Lexeme.chars (w : Lexeme) : List (Char × Kind) := w.text.map fun c => (c, w.kind)

/-- A table brace. -/
def isBrace (c : Char) : Bool := c == '{' || c == '}'

/-- The depth of table braces behind a character of code; a closing brace at depth zero changes
nothing. -/
def depthBehind (depth : Nat) (c : Char) : Nat :=
  if c = '{' then depth + 1 else if c = '}' then depth - 1 else depth

namespace Position

/-- The lexeme of the first `n` characters of a text, behind which the lexer is in `region`. -/
def lexeme (p : Position) (t : Text) (n : Nat) (kind : Kind) (region : Region) : Lexeme :=
  { text := t.take n, kind, after := { p with region } }

/-- The first lexeme of a text in a code region. -/
def nextInCode (p : Position) (c : Char) (rest : Text) : Lexeme :=
  if c = '-' ∧ rest.head? = some '-' then
    match bracketLevel rest.tail with
    | some level => p.lexeme (c :: rest) (level + 4) .comment (.blockComment level)
    | none => p.lexeme (c :: rest) 2 .comment .lineComment
  else if isQuote c then p.lexeme (c :: rest) 1 .literal (.quoted c)
  else match bracketLevel (c :: rest) with
    | some level => p.lexeme (c :: rest) (level + 2) .literal (.longString level)
    | none => { text := [c], kind := .code, after := ⟨.code, depthBehind p.depth c⟩ }

/-- The first lexeme of a text in a quoted string: an escape is one lexeme of two characters, but no
escape reaches over a line end. -/
def nextInQuoted (p : Position) (quote c : Char) (rest : Text) : Lexeme :=
  if c = '\\' then
    p.lexeme (c :: rest) (if rest.head?.any isLineBreak then 1 else 2) .literal (.quoted quote)
  else p.lexeme (c :: rest) 1 .literal (if c = quote then .code else .quoted quote)

/-- The first lexeme of a text between long brackets of a level: the closing bracket, or one
character of `region`. -/
def nextInBrackets (p : Position) (level : Nat) (kind : Kind) (region : Region) (c : Char)
    (rest : Text) : Lexeme :=
  if bracketCloser level <+: c :: rest then p.lexeme (c :: rest) (level + 2) kind .code
  else p.lexeme (c :: rest) 1 kind region

/-- The first lexeme of the text that `c` and `rest` make up. -/
def next (p : Position) (c : Char) (rest : Text) : Lexeme :=
  if isLineBreak c then
    p.lexeme (c :: rest) (if c = '\r' ∧ rest.head? = some '\n' then 2 else 1) .lineEnd
      p.region.afterLineEnd
  else match p.region with
    | .code => p.nextInCode c rest
    | .quoted quote => p.nextInQuoted quote c rest
    | .lineComment => p.lexeme (c :: rest) 1 .comment .lineComment
    | .blockComment level => p.nextInBrackets level .comment (.blockComment level) c rest
    | .longString level => p.nextInBrackets level .literal (.longString level) c rest

end Position

/-- The lexemes of a text that is read from a position on. -/
def lex (p : Position) : Text → List Lexeme
  | [] => []
  | c :: rest =>
    let w := p.next c rest
    w :: lex w.after (rest.drop (w.text.length - 1))
termination_by t => t.length
decreasing_by
  simp only [List.length_drop, List.length_cons]
  omega

/-! ## §3 Lines -/

/-- A line of a source as the lexer reads it. -/
structure LexedLine where
  /-- The position at the start of the line. -/
  start : Position
  /-- The lexemes of the line, without the one that ends it. -/
  lexemes : List Lexeme
  deriving Repr, DecidableEq

namespace LexedLine

/-- The position at the end of the line. -/
def stop (l : LexedLine) : Position := (l.lexemes.getLast?.map Lexeme.after).getD l.start

/-- The characters of the line with their kinds. -/
def chars (l : LexedLine) : List (Char × Kind) := l.lexemes.flatMap Lexeme.chars

/-- The line as it stands in the source. -/
def text (l : LexedLine) : Text := l.chars.map (·.1)

/-- The characters that belong to no comment. -/
def kept (l : LexedLine) : List (Char × Kind) := l.chars.filter fun p => p.2 != .comment

/-- The line without its comments. -/
def code (l : LexedLine) : Text := l.kept.map (·.1)

/-- The line starts inside a block comment or a long string. -/
def isContinuation (l : LexedLine) : Bool := l.start.region.spansLines

end LexedLine

/-- Lexemes, read from a position on, cut at the line ends. -/
def cutAtLineEnds (p : Position) : List Lexeme → List LexedLine
  | [] => [⟨p, []⟩]
  | w :: ws =>
    if w.kind = .lineEnd then ⟨p, []⟩ :: cutAtLineEnds w.after ws
    else match cutAtLineEnds w.after ws with
      | [] => [⟨p, [w]⟩]
      | line :: lines => ⟨p, w :: line.lexemes⟩ :: lines

/-- The lines of a source as the lexer reads them. -/
def lexedLines (source : Text) : List LexedLine := cutAtLineEnds {} (lex {} source)

end LuaAccessors.Lexis
