import LuaAccessors.Lexis.LineBreak
import LuaAccessors.Lexis.Mode

/-!
# Scanned lines

Scanning turns a source into its lines with the comments removed, each with the depth of table
braces at its start and at its end. Only braces in code count, and a closing brace at depth zero
leaves the depth at zero.

- `ScannedLine`: what the rest of the library sees of a line;
- `Carry`: a long string or block comment that a line leaves open for the next one;
- `ScanState`, `scanLine`, `scanLines`: the state between two lines, one line, all lines;
- `scan`: a whole source.

A line whose trimmed text starts with `---@` is a directive: it is kept whole and changes neither
the depth nor what is open. A line that starts inside a long string or a block comment is none.
-/

namespace LuaAccessors.Lexis

/-! ## §1 Lines -/

/-- A line of a source with its comments removed. -/
structure ScannedLine where
  /-- The position of the line in its source, from one. -/
  number : Nat
  /-- The trimmed code, or the trimmed line if it is a directive. -/
  text : Text
  /-- The depth of table braces at the start. -/
  depthBefore : Nat
  /-- The depth of table braces at the end. -/
  depthAfter : Nat
  /-- The line is an annotation. -/
  isDirective : Bool := false
  /-- The line starts inside a long string or a block comment. -/
  isContinuation : Bool := false
  deriving Repr, DecidableEq

namespace ScannedLine

/-- The line holds nothing but blanks and comments. -/
def isBlankLine (line : ScannedLine) : Bool := line.text.isEmpty

/-- The line opens more braces than it closes. -/
def opensTable (line : ScannedLine) : Bool := line.depthBefore < line.depthAfter

/-- The line closes more braces than it opens. -/
def closesTable (line : ScannedLine) : Bool := line.depthAfter < line.depthBefore

/-- The line starts inside braces. -/
def insideTable (line : ScannedLine) : Bool := 0 < line.depthBefore

/-- The code of the line as part of a table literal; a directive holds none. -/
def code (line : ScannedLine) : Text := if line.isDirective then [] else line.text

end ScannedLine

/-! ## §2 What a line leaves open

Of all modes two outlast a line. A line is therefore scanned from a state that is much smaller than the mode of
the machine.
-/

/-- What the end of a line leaves open. -/
inductive Carry where
  | nothing
  | longString (level : Nat)
  | blockComment (level : Nat)
  deriving Repr, DecidableEq

/-- The mode in which the next line starts. -/
def Carry.mode : Carry → Mode
  | .nothing => .code
  | .longString level => .longString level
  | .blockComment level => .blockComment level

/-- What a mode leaves open at the end of a line: quoted literals and line comments end there. -/
def Mode.carry : Mode → Carry
  | .longString level => .longString level
  | .blockComment level => .blockComment level
  | .within _ _ next => next.carry
  | .code | .quoted _ | .escaped _ | .lineComment => .nothing

/-! ## §3 Code and depth of a line -/

/-- The characters of a text that belong to no comment. -/
def withoutComments (t : Text) (rs : List Role) : Text :=
  ((t.zip rs).filter fun p => p.2 != .comment).map (·.1)

/-- The depth behind a character. -/
def stepDepth (depth : Nat) (c : Char) (role : Role) : Nat :=
  if role = .code then
    if c = '{' then depth + 1 else if c = '}' then depth - 1 else depth
  else depth

/-- The depth behind a text whose characters have the given roles. -/
def depthAfter (depth : Nat) (t : Text) (rs : List Role) : Nat :=
  (t.zip rs).foldl (fun d p => stepDepth d p.1 p.2) depth

/-! ## §4 Scanning -/

/-- What a scan knows between two lines. -/
structure ScanState where
  /-- The depth of table braces. -/
  depth : Nat := 0
  /-- What the last line has left open. -/
  carry : Carry := .nothing
  /-- How many lines have been scanned. -/
  lineNumber : Nat := 0
  deriving Repr, DecidableEq

/-- The mark with which a directive starts. -/
def directiveMark : Text := "---@".toList

/-- One line, and the state behind it. -/
def scanLine (state : ScanState) (raw : Text) : ScannedLine × ScanState :=
  let number := state.lineNumber + 1
  let isContinuation := state.carry != .nothing
  let trimmed := raw.strip
  if ¬ isContinuation ∧ directiveMark.isPrefixOf trimmed then
    ({ number, text := trimmed, depthBefore := state.depth, depthAfter := state.depth,
       isDirective := true },
     { state with lineNumber := number })
  else
    let start := state.carry.mode
    let rs := roles true start raw
    let depth := depthAfter state.depth raw rs
    ({ number, text := (withoutComments raw rs).strip, depthBefore := state.depth,
       depthAfter := depth, isContinuation },
     { depth, carry := (start.after true raw).carry, lineNumber := number })

/-- All lines from a state on, and the state behind them. -/
def scanLines (state : ScanState) : List Text → List ScannedLine × ScanState
  | [] => ([], state)
  | raw :: rest =>
    let (line, state) := scanLine state raw
    let (lines, state) := scanLines state rest
    (line :: lines, state)

/-- The scanned lines of a source. -/
def scan (source : Text) : List ScannedLine := (scanLines {} (splitLines source)).1

end LuaAccessors.Lexis
