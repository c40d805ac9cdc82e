import LuaAccessors.Lexis.LongBracket

/-!
# Lexical modes

One machine decides what every character of a Lua text is: code, a delimiter of a literal, the
content of a literal, or part of a comment. It reads from left to right, one character per step,
and looks ahead only to see whether a long bracket or a comment opens or closes where it stands.

- `Role`: what a character is;
- `Mode`: what the machine is in the middle of;
- `Mode.step`: the role of the next character and the mode behind it;
- `roles`, `Mode.after`: the roles of a whole text, and the mode it ends in.

The machine has one switch, `comments`: text from which comments have been removed already is read
with the switch off, and `--` is then plain code.
-/

namespace LuaAccessors.Lexis

/-! ## §1 Roles and modes -/

/-- What a character of a Lua text is. -/
inductive Role where
  /-- A character outside literals and comments. -/
  | code
  /-- A quote, or part of a long bracket that opens or closes a string. -/
  | delimiter
  /-- A character between the delimiters of a literal. -/
  | content
  /-- A character of a comment, its delimiters included. -/
  | comment
  deriving Repr, DecidableEq

/-- What the machine is in the middle of. -/
inductive Mode where
  /-- Outside literals and comments. -/
  | code
  /-- Inside a literal that `quote` closes. -/
  | quoted (quote : Char)
  /-- Inside such a literal, behind a backslash. -/
  | escaped (quote : Char)
  /-- Inside a long string. -/
  | longString (level : Nat)
  /-- Inside a comment that ends with its line. -/
  | lineComment
  /-- Inside a comment that a long bracket closes. -/
  | blockComment (level : Nat)
  /-- Inside a delimiter of which `left + 1` characters are still to come. -/
  | within (left : Nat) (role : Role) (next : Mode)
  deriving Repr, DecidableEq

/-! ## §2 One step

A delimiter of several characters is recognised at its first one. The mode `within` then counts the others down,
so that each step gives one character its role.
-/

/-- A character that opens and closes a quoted literal. -/
def isQuote (c : Char) : Bool := c == '"' || c == '\''

/-- Whether a quoted literal that is still open ends before the rest of the text. -/
def endsOpen : Text → Bool
  | [] => true
  | c :: _ => c == '\n'

/-- The role of the next character `c` and the mode behind it, where `rest` follows `c`. -/
def Mode.step (comments : Bool) : Mode → Char → Text → Role × Mode
  | .code, c, rest =>
    if comments ∧ c = '-' ∧ rest.head? = some '-' then
      match bracketLevel rest.tail with
      | some level => (.comment, .within (level + 2) .comment (.blockComment level))
      | none => (.comment, .lineComment)
    else if isQuote c then (.delimiter, .quoted c)
    else match bracketLevel (c :: rest) with
      | some level => (.delimiter, .within level .delimiter (.longString level))
      | none => (.code, .code)
  | .quoted quote, c, _ =>
    if c = '\n' then (.code, .code)
    else if c = '\\' then (.content, .escaped quote)
    else if c = quote then (.delimiter, .code)
    else (.content, .quoted quote)
  -- An escaped quote that is the last character of a literal left open counts as its delimiter.
  | .escaped quote, c, rest =>
    (if c = quote ∧ endsOpen rest then .delimiter else .content, .quoted quote)
  | .longString level, c, rest =>
    if (bracketCloser level).isPrefixOf (c :: rest) then
      (.delimiter, .within level .delimiter .code)
    else (.content, .longString level)
  | .lineComment, _, _ => (.comment, .lineComment)
  | .blockComment level, c, rest =>
    if (bracketCloser level).isPrefixOf (c :: rest) then
      (.comment, .within level .comment .code)
    else (.comment, .blockComment level)
  | .within 0 role next, _, _ => (role, next)
  | .within (left + 1) role next, _, _ => (role, .within left role next)

/-! ## §3 Whole texts -/

/-- The roles of the characters of a text that is read from a given mode. -/
def roles (comments : Bool) : Mode → Text → List Role
  | _, [] => []
  | mode, c :: rest =>
    (mode.step comments c rest).1 :: roles comments (mode.step comments c rest).2 rest

/-- The mode in which the machine leaves a text. -/
def Mode.after (comments : Bool) : Mode → Text → Mode
  | mode, [] => mode
  | mode, c :: rest => (mode.step comments c rest).2.after comments rest

/-- Every character has a role. -/
@[simp] theorem length_roles (comments : Bool) (mode : Mode) (t : Text) :
    (roles comments mode t).length = t.length := by
  induction t generalizing mode with
  | nil => rfl
  | cons c rest ih => simp [roles, ih]

end LuaAccessors.Lexis
