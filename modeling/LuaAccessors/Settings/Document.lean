import LuaAccessors.Settings.Mapping

/-!
# Settings documents

Settings documents are written in a subset of YAML: block mappings and block lists by indentation,
mappings and lists in brackets, plain scalars and scalars in single or double quotes, comments, and
a `---` in front. Reading one yields its value, or nothing if it is no such document.

- `Cursor`: a place in a document, which is the rest of a line and the lines below it;
- `readQuoted?`, `plainPiece`: scalars;
- `flowNode?`: lists and mappings in brackets;
- `blockNode?`: mappings and lists by indentation;
- `readDocument?`: a whole document.

The functions that follow the nesting of a document take a bound on the number of steps; there are at
most two steps between two characters of the document, so its length bounds them.
-/

namespace LuaAccessors.Settings

/-! ## §1 Places -/

/-- The rest of a line, and the lines below it. -/
structure Cursor where
  line : Text
  below : List Text

/-- The text without the spaces in front. -/
def dropSpaces (t : Text) : Text := t.dropWhile (· == ' ')

/-- Nothing but spaces, and perhaps a comment, is left of a line. -/
def isLineEnd (t : Text) : Bool :=
  match dropSpaces t with
  | [] => true
  | c :: _ => c == '#'

/-- How many spaces a line starts with. -/
def indentation (line : Text) : Nat := (line.takeWhile (· == ' ')).length

/-- The lines from the first one on that holds more than a comment. -/
def skipEmpty (lines : List Text) : List Text := lines.dropWhile isLineEnd

/-- A line that separates documents. -/
def isMarker (line : Text) : Bool :=
  let behind := line.drop 3
  (line.take 3 == "---".toList || line.take 3 == "...".toList)
    && (behind.isEmpty || behind.head? == some ' ')

/-- A blank inside quotes. -/
def isLineBlank (c : Char) : Bool := c == ' ' || c == '\t'

/-! ## §2 Quoted scalars -/

/-- How far a quoted scalar is read on one line. -/
inductive QuotedPiece where
  /-- The quote is closed, and `rest` follows it. -/
  | closed (content rest : Text)
  /-- The scalar goes on in the next line; `joined` says that the line break does not count. -/
  | broken (content : Text) (joined : Bool)

/-- The piece with `t` in front of its content. -/
def QuotedPiece.cons (t : Text) : QuotedPiece → QuotedPiece
  | .closed content rest => .closed (t ++ content) rest
  | .broken content joined => .broken (t ++ content) joined

/-- A scalar in single quotes, in which a doubled quote stands for one. -/
def singleQuoted : Text → QuotedPiece
  | [] => .broken [] false
  | '\'' :: '\'' :: rest => (singleQuoted rest).cons ['\'']
  | c :: rest => if c = '\'' then .closed [] rest else (singleQuoted rest).cons [c]

/-- The escapes of one character in double quotes, and what they stand for. -/
def escapes : List (Char × Char) := [
  ('0', '\x00'), ('a', '\x07'), ('b', '\x08'), ('t', '\t'), ('\t', '\t'), ('n', '\n'),
  ('v', '\x0b'), ('f', '\x0c'), ('r', '\r'), ('e', '\x1b'), (' ', ' '), ('"', '"'),
  ('\\', '\\'), ('/', '/'), ('N', '\u0085'), ('_', '\u00a0'), ('L', '\u2028'), ('P', '\u2029')]

/-- How many hexadecimal digits follow the letter of an escape. -/
def escapeWidth (c : Char) : Nat :=
  if c = 'x' then 2 else if c = 'u' then 4 else if c = 'U' then 8 else 0

/-- A hexadecimal digit. -/
def isHexDigit (c : Char) : Bool := c.isDigit || ('a' ≤ c.toLower && c.toLower ≤ 'f')

/-- A scalar in double quotes; `pending` more characters belong to an escape that has been read. -/
def doubleQuoted (pending : Nat) : Text → Option QuotedPiece
  | [] => some (.broken [] false)
  | c :: rest =>
    match pending with
    | pending + 1 => doubleQuoted pending rest
    | 0 =>
      if c = '"' then some (.closed [] rest)
      else if c = '\\' then
        match rest with
        | [] => some (.broken [] true)
        | e :: digits =>
          let width := escapeWidth e
          if width = 0 then
            match escapes.lookup e with
            | some d => (doubleQuoted 1 rest).map (.cons [d])
            | none => none
          else if (digits.take width).length = width ∧ (digits.take width).all isHexDigit then
            let n := ofDigits 16 (digits.take width)
            (doubleQuoted (width + 1) rest).map (.cons [Char.ofNat n])
          else none
      else (doubleQuoted 0 rest).map (.cons [c])

/-- What is read of a scalar on one line behind its quote. -/
def quotedPiece? (quote : Char) (line : Text) : Option QuotedPiece :=
  if quote = '\'' then some (singleQuoted line) else doubleQuoted 0 line

/-- A quoted scalar behind its quote, and the place behind it. A line break becomes a space, and a
blank line a line feed. -/
def readQuoted? (quote : Char) (isFirst : Bool) (done line : Text) (below : List Text) :
    Option (Text × Cursor) :=
  match quotedPiece? quote line, below with
  | none, _ => none
  | some (.closed content rest), below => some (done ++ content, ⟨rest, below⟩)
  | some (.broken _ _), [] => none
  | some (.broken content joined), next :: further =>
    if isMarker next then none
    else
      let content := if joined then content else content.dropEndWhile isLineBlank
      let next := next.dropWhile isLineBlank
      let glue : Text :=
        if content.isEmpty && !isFirst && !joined then ['\n']
        else if joined || next.isEmpty then []
        else [' ']
      readQuoted? quote false (done ++ content ++ glue) next further

/-! ## §3 Plain scalars -/

/-- Characters that no plain scalar starts with. -/
def indicators : Text := "-?:,[]{}#&*!|>'\"%@`".toList

/-- The end of a text, a space or a tab. -/
def endsWord : Text → Bool
  | [] => true
  | c :: _ => isLineBlank c

/-- Whether a plain scalar may start a text. -/
def startsPlain (inFlow : Bool) : Text → Bool
  | [] => false
  | c :: rest =>
    if c == '\t' then false
    else !indicators.contains c
      || (!endsWord rest && (c == '-' || (!inFlow && (c == '?' || c == ':'))))

/-- Whether a plain scalar ends before a text, in front of which stands a space if `spaced`. -/
def endsPlain (inFlow spaced : Bool) : Text → Bool
  | [] => true
  | c :: rest =>
    c == '\t' || (c == '#' && spaced)
      || (c == ':' && (endsWord rest || (inFlow && rest.head?.any (",[]{}".toList.contains ·))))
      || (inFlow && ",?[]{}".toList.contains c)

/-- The plain scalar at the start of a line, with the spaces behind it, and what follows. -/
def plainPiece (inFlow spaced : Bool) : Text → Text × Text
  | [] => ([], [])
  | c :: rest =>
    if endsPlain inFlow spaced (c :: rest) then ([], c :: rest)
    else
      let (piece, rest) := plainPiece inFlow (c == ' ') rest
      (c :: piece, rest)

/-- The plain scalar at the start of a line without the spaces behind it, and what follows. -/
def plainWord (inFlow : Bool) (line : Text) : Text × Text :=
  let (piece, rest) := plainPiece inFlow false line
  (piece.dropEndWhile (· == ' '), rest)

/-- A plain scalar that goes on in lines further right than `column`; the lines below it are left.
Only the end of a line, or a comment, may follow it. -/
def plainLines? (column : Nat) (done line : Text) (below : List Text) :
    Option (Text × List Text) :=
  let word := plainWord false line
  let done := done ++ word.1
  if word.2.isEmpty then
    let blanks := (below.takeWhile fun l => (dropSpaces l).isEmpty).length
    match _h : below.drop blanks with
    | [] => some (done, [])
    | next :: further =>
      if indentation next < column ∨ isMarker next ∨ (dropSpaces next).head? = some '#' then
        some (done, next :: further)
      else
        let glue := if blanks = 0 then [' '] else List.replicate blanks '\n'
        plainLines? column (done ++ glue) (dropSpaces next) further
  else if word.2.head? = some '#' then some (done, below)
  else none
termination_by below.length
decreasing_by
  have := congrArg List.length _h
  simp only [List.length_drop, List.length_cons] at this
  omega

/-- A plain scalar inside brackets that goes on in the lines below, and the place behind it. -/
def plainFlow (done line : Text) (below : List Text) : Text × Cursor :=
  let word := plainWord true line
  let done := done ++ word.1
  if word.2.isEmpty then
    let blanks := (below.takeWhile fun l => (dropSpaces l).isEmpty).length
    match _h : below.drop blanks with
    | [] => (done, ⟨[], below⟩)
    | next :: further =>
      let content := dropSpaces next
      if isMarker next ∨ content.head? = some '#' ∨ endsPlain true false content then
        (done, ⟨[], below⟩)
      else
        let glue := if blanks = 0 then [' '] else List.replicate blanks '\n'
        plainFlow (done ++ glue) content further
  else (done, ⟨word.2, below⟩)
termination_by below.length
decreasing_by
  have := congrArg List.length _h
  simp only [List.length_drop, List.length_cons] at this
  omega

/-! ## §4 Keys -/

/-- How long a key may be. -/
def maxKeyLength : Nat := 1024

/-- Whether what is read from `start` to `stop` may be a key: it stands on one line. -/
def isSimpleKey (start stop : Cursor) : Bool :=
  start.below.length == stop.below.length && start.line.length ≤ stop.line.length + maxKeyLength

/-! ## §5 Brackets

Inside brackets indentation does not count and comments may stand between any two tokens, so only places are
handed on.
-/

/-- The place of the next character that is no space, comment or line end. -/
def Cursor.next? (line : Text) : List Text → Option Cursor
  | [] => if isLineEnd line then none else some ⟨dropSpaces line, []⟩
  | next :: below =>
    if isLineEnd line then Cursor.next? next below else some ⟨dropSpaces line, next :: below⟩

mutual

/-- A scalar, a list or a mapping inside brackets, which may be a key, and the place behind it. -/
def flowNode? (bound : Nat) (at? : Option Cursor) : Option (Key × Cursor) :=
  match bound, at? with
  | 0, _ => none
  | _, none => none
  | bound + 1, some ⟨line, below⟩ =>
    match line with
    | '[' :: rest => flowList? bound [] (Cursor.next? rest below)
    | '{' :: rest => flowMapping? bound {} (Cursor.next? rest below)
    | c :: rest =>
      if c = '\'' ∨ c = '"' then
        (readQuoted? c true [] rest below).map fun (t, place) => (.value (.text t), place)
      else if startsPlain true line then
        let (word, place) := plainFlow [] line below
        some (.ofPlain word, place)
      else none
    | [] => none

/-- The items of a list up to its closing bracket. -/
def flowList? (bound : Nat) (items : List Value) (at? : Option Cursor) : Option (Key × Cursor) :=
  match bound, at? with
  | 0, _ => none
  | _, none => none
  | bound + 1, some start =>
    match start.line with
    | ']' :: rest => some (.value (.list items), ⟨rest, start.below⟩)
    | _ => do
      let (key, place) ← flowNode? bound start
      let place ← Cursor.next? place.line place.below
      -- An item with a colon behind it is a mapping of one entry.
      let (item, place) ← match place.line with
        | ':' :: rest =>
          if isSimpleKey start place then do
            let (value, place) ← flowValue? bound (Cursor.next? rest place.below)
            let entries ← Entries.add? {} key value
            pure (entries.toValue, ← Cursor.next? place.line place.below)
          else none
        | _ => do pure (← key.toValue?, place)
      match place.line with
      | ',' :: rest => flowList? bound (items ++ [item]) (Cursor.next? rest place.below)
      | ']' :: rest => some (.value (.list (items ++ [item])), ⟨rest, place.below⟩)
      | _ => none

/-- The entries of a mapping up to its closing bracket. -/
def flowMapping? (bound : Nat) (entries : Entries) (at? : Option Cursor) :
    Option (Key × Cursor) :=
  match bound, at? with
  | 0, _ => none
  | _, none => none
  | bound + 1, some start =>
    match start.line with
    | '}' :: rest => some (.value entries.toValue, ⟨rest, start.below⟩)
    | _ => do
      let (key, place) ← flowNode? bound start
      let place ← Cursor.next? place.line place.below
      let (value, place) ← match place.line with
        | ':' :: rest =>
          if isSimpleKey start place then do
            let (value, place) ← flowValue? bound (Cursor.next? rest place.below)
            pure (value, ← Cursor.next? place.line place.below)
          else none
        | _ => pure (.null, place)
      let entries ← entries.add? key value
      match place.line with
      | ',' :: rest => flowMapping? bound entries (Cursor.next? rest place.below)
      | '}' :: rest => some (.value entries.toValue, ⟨rest, place.below⟩)
      | _ => none

/-- The value behind the colon of an entry, which may be missing. -/
def flowValue? (bound : Nat) (at? : Option Cursor) : Option (Value × Cursor) :=
  match bound, at? with
  | 0, _ => none
  | _, none => none
  | bound + 1, some place =>
    match place.line with
    | c :: _ =>
      if c = ',' ∨ c = ']' ∨ c = '}' then some (.null, place)
      else do
        let (key, place) ← flowNode? bound place
        return (← key.toValue?, place)
    | [] => none

end

/-! ## §6 Blocks

Outside of brackets the columns carry the nesting. A node ends at the first line that starts further to the left
than the node itself.
-/

/-- The key at the start of a line, and what follows its colon. -/
def blockKey? (line : Text) : Option (Key × Text) :=
  let colon (key : Key) (rest : Text) : Option (Key × Text) :=
    match dropSpaces rest with
    | ':' :: rest =>
      if endsWord rest ∧ line.length ≤ rest.length + 1 + maxKeyLength then some (key, rest)
      else none
    | _ => none
  match line with
  | [] => none
  | c :: rest =>
    if c = '\'' ∨ c = '"' then
      match quotedPiece? c rest with
      | some (.closed content rest) => colon (.value (.text content)) rest
      | _ => none
    else if startsPlain false line then
      let (word, rest) := plainWord false line
      colon (.ofPlain word) rest
    else none

/-- Whether a list item starts a line. -/
def startsItem (line : Text) : Bool := line.head? == some '-' && endsWord line.tail

/-- A scalar, or something in brackets, that starts in the middle of a line; the lines below it are
left. A plain scalar may go on in lines from `column` on. -/
def inlineNode? (bound column : Nat) (line : Text) (below : List Text) :
    Option (Value × List Text) :=
  match line with
  | [] => none
  | c :: rest =>
    let closed : Option (Key × Cursor) → Option (Value × List Text)
      | some (.value value, place) =>
        if isLineEnd place.line then some (value, place.below) else none
      | _ => none
    if c = '[' ∨ c = '{' then closed (flowNode? bound (some ⟨line, below⟩))
    else if c = '\'' ∨ c = '"' then
      closed ((readQuoted? c true [] rest below).map fun (t, place) => (.value (.text t), place))
    else if startsPlain false line then do
      let (t, below) ← plainLines? column [] line below
      return (← (Key.ofPlain t).toValue?, below)
    else none

mutual

/-- The node that starts in one of the lines, at least `column` to the right; null if there is
none. -/
def blockNode? (bound column : Nat) (lines : List Text) : Option (Value × List Text) :=
  match bound with
  | 0 => none
  | bound + 1 =>
    match skipEmpty lines with
    | [] => some (.null, [])
    | line :: below =>
      let indent := indentation line
      let content := line.drop indent
      if indent < column ∨ isMarker line then some (.null, line :: below)
      else if startsItem content then blockList? bound indent [] (line :: below)
      else if (blockKey? content).isSome then blockMapping? bound indent {} (line :: below)
      else inlineNode? bound column content below

/-- The items of a list whose dashes stand at `column`. -/
def blockList? (bound column : Nat) (items : List Value) (lines : List Text) :
    Option (Value × List Text) :=
  match bound with
  | 0 => none
  | bound + 1 =>
    match skipEmpty lines with
    | [] => some (.list items, [])
    | line :: below =>
      let content := line.drop column
      if indentation line < column ∨ isMarker line then some (.list items, line :: below)
      else if indentation line = column ∧ startsItem content then do
        -- What follows the dash is read as if a space stood in its place.
        let inner := List.replicate (column + 1) ' ' ++ content.tail
        let (item, below) ← blockNode? bound (column + 1) (inner :: below)
        blockList? bound column (items ++ [item]) below
      else if indentation line = column then some (.list items, line :: below)
      else none

/-- The entries of a mapping whose keys stand at `column`. -/
def blockMapping? (bound column : Nat) (entries : Entries) (lines : List Text) :
    Option (Value × List Text) :=
  match bound with
  | 0 => none
  | bound + 1 =>
    match skipEmpty lines with
    | [] => some (entries.toValue, [])
    | line :: below =>
      if indentation line < column ∨ isMarker line then some (entries.toValue, line :: below)
      else if column < indentation line then none
      else do
        let (key, rest) ← blockKey? (line.drop column)
        let (value, below) ←
          if isLineEnd rest then
            match skipEmpty below with
            | next :: further =>
              if indentation next = column ∧ startsItem (next.drop column) then
                blockList? bound column [] (next :: further)
              else blockNode? bound (column + 1) (next :: further)
            | [] => some (.null, [])
          else inlineNode? bound (column + 1) (dropSpaces rest) below
        blockMapping? bound column (← entries.add? key value) below

end

/-! ## §7 Documents -/

/-- A character that ends a line of a document. -/
def isLineBreak (c : Char) : Bool := c == '\n' || c == '\u0085' || c == '\u2028' || c == '\u2029'

/-- A character that a document may hold. -/
def isAllowed (c : Char) : Bool :=
  let n := c.toNat
  n == 9 || n == 10 || n == 13 || (0x20 ≤ n && n ≤ 0x7E) || n == 0x85 || (0xA0 ≤ n && n ≤ 0xD7FF)
    || (0xE000 ≤ n && n ≤ 0xFFFD) || 0x10000 ≤ n

/-- Whether no document starts in the lines: they are empty, or follow the mark that ends one. -/
def endsDocument (lines : List Text) : Bool :=
  match skipEmpty lines with
  | [] => true
  | line :: below => line.take 3 == "...".toList && isMarker line && (skipEmpty below).isEmpty

/-- The value of a document whose line ends are line feeds, or nothing if it cannot be read. -/
def readDocument? (t : Text) : Option Value :=
  if !t.all isAllowed then none
  else
    let body := if t.head? = some '\ufeff' then t.tail else t
    let bound := 2 * body.length + 4
    let lines := skipEmpty (Text.splitWhere isLineBreak body)
    let node := match lines with
      | [] => some (Value.null, [])
      | line :: below =>
        if line.take 3 == "---".toList && isMarker line then
          if isLineEnd (line.drop 3) then blockNode? bound 0 below
          else inlineNode? bound 0 (dropSpaces (line.drop 3)) below
        else if isMarker line then none
        else blockNode? bound 0 lines
    match node with
    | some (value, rest) => if endsDocument rest then some value else none
    | none => none

end LuaAccessors.Settings
