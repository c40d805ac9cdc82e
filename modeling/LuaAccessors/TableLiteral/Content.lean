import LuaAccessors.Lexis.Mask

/-!
# The content of a table literal

The text between the outer braces of a table literal, which may start in the middle of a line and
end some lines further down. Only braces outside literals count. If they balance in the first text
itself, the content is cut out of it; else braces are counted through the lines that follow, and a
line break becomes one space.

- `trimOuterBraces`: what lies between the first opening and the last closing brace;
- `contentWithin`: what lies before the brace that closes the table;
- `tableContent`: the content of the literal that a text starts.
-/

namespace LuaAccessors.TableLiteral

open Lexis

/-- The text between its first visible opening brace and its last visible closing brace, or the text
itself if the two do not follow each other. -/
def trimOuterBraces (t : Text) : Text :=
  match (marked t).dropWhile (·.2 != '{') with
  | [] => t
  | _ :: inner =>
    match inner.reverse.dropWhile (·.2 != '}') with
    | [] => t
    | _ :: content => Marked.text content.reverse

/-- The text before the visible brace that closes a table in which `depth` more are open; all of it
if no brace does. Line breaks become spaces. -/
def contentWithin (depth : Nat) : Marked → Text
  | [] => []
  | (c, shown) :: rest =>
    if c = '\n' then ' ' :: contentWithin depth rest
    else if shown = '{' then c :: contentWithin (depth + 1) rest
    else if shown = '}' then
      match depth with
      | 0 => []
      | depth + 1 => c :: contentWithin depth rest
    else c :: contentWithin depth rest

/-- The content of the table that the first visible opening brace opens. -/
def contentFromBrace (m : Marked) : Text :=
  match m.dropWhile (·.2 != '{') with
  | [] => []
  | _ :: inner => contentWithin 0 inner

/-- Whether a text shows an opening brace outside literals and as many closing ones. -/
def isBalanced (t : Text) : Bool :=
  let shown := mask t
  shown.contains '{' && shown.count '{' == shown.count '}'

/-- The content of the table literal that starts in `value` and may go on in the lines that follow
it. -/
def tableContent (value : Text) (following : List Text) : Text :=
  if isBalanced value then trimOuterBraces value
  else contentFromBrace (marked (Text.join ['\n'] (value :: following)))

end LuaAccessors.TableLiteral
