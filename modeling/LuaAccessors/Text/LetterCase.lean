import LuaAccessors.Text.Basic
import LuaAccessors.Text.CaseRanges

/-!
# Letter case

The full case mappings, under which one character may become several (`ß` becomes `SS`), and the
one rule that looks at the neighbours: a capital sigma at the end of a word becomes `ς`.

- `upperChar`, `lowerChar`: the form of one character on its own;
- `lower`: the lower-case form of a text.
-/

namespace LuaAccessors

/-! ## §1 One character -/

/-- The form of a code point under a case mapping that is given by its expansions and its runs. -/
def mapCase (expansions : List (Nat × List Nat)) (runs : List CaseRun) (c : Char) : Text :=
  match expansions.lookup c.toNat with
  | some ns => ns.map Char.ofNat
  | none => [((CaseRun.find? runs c.toNat).map Char.ofNat).getD c]

/-- The upper-case form of one character. -/
def upperChar (c : Char) : Text :=
  if c.toNat < 0x80 then [c.toUpper] else mapCase upperExpansions upperRuns c

/-- The lower-case form of one character, whatever stands around it. -/
def lowerChar (c : Char) : Text :=
  if c.toNat < 0x80 then [c.toLower] else mapCase lowerExpansions lowerRuns c

/-! ## §2 The end of a word -/

/-- Marks that the search for the end of a word looks past. -/
def isCaseIgnorable (c : Char) : Bool :=
  if c.toNat < 0x80 then c == '\'' || c == '.' || c == ':' || c == '^' || c == '`'
  else caseIgnorableRanges.contains c.toNat

/-- A cased letter that is no mark to look past. -/
def isCased (c : Char) : Bool :=
  if c.toNat < 0x80 then c.isAlpha else casedRanges.contains c.toNat

/-- Whether the first character of `t` that is no mark to look past is a cased letter. -/
def startsCased (t : Text) : Bool :=
  match t.dropWhile isCaseIgnorable with
  | [] => false
  | c :: _ => isCased c

/-- The lower-case form of `t`, of which `before` is what precedes it, nearest first: a capital
sigma between a cased letter and no cased letter is a final one. -/
def lowerAfter (before : Text) : Text → Text
  | [] => []
  | c :: rest =>
    (if c = 'Σ' ∧ startsCased before ∧ ¬ startsCased rest then ['ς'] else lowerChar c)
      ++ lowerAfter (c :: before) rest

/-- The lower-case form of a text. -/
def lower (t : Text) : Text := lowerAfter [] t

end LuaAccessors
