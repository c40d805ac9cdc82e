import LuaAccessors.Text.Basic

/-!
# Paths

A path is a sequence of components. Empty components and `.` are dropped, and `..` stays. The name
of a path is its last component; the stem is the name without its last suffix, where a point at the
start or the end of a name begins no suffix.

- `Path`, `Path.ofText`, `Path.text`: paths, and the texts that name them;
- `Path.join`, `Path.stem`: a path with more components behind it, and what a file is called;
- `IsFileName`: a text that is one component.
-/

namespace LuaAccessors

/-- A path as its components. -/
structure Path where
  /-- The path starts at the root. -/
  isAbsolute : Bool := false
  /-- The components. -/
  parts : List Text := []
  deriving Repr, DecidableEq

namespace Path

/-- The path that a text names. -/
def ofText (t : Text) : Path :=
  { isAbsolute := t.head? == some '/'
    parts := (Text.splitOn '/' t).filter fun part => !part.isEmpty && part != ['.'] }

/-- The text of a path. -/
def text (p : Path) : Text :=
  let body := Text.join ['/'] p.parts
  if p.isAbsolute then '/' :: body else if p.parts.isEmpty then ['.'] else body

/-- The path with one more component. -/
def child (p : Path) (name : Text) : Path := { p with parts := p.parts ++ [name] }

/-- The path with more components behind it. -/
def below (p : Path) (parts : List Text) : Path := { p with parts := p.parts ++ parts }

/-- The path with the components of a text behind it; a path from the root stands for itself. -/
def join (p : Path) (t : Text) : Path :=
  let q := ofText t
  if q.isAbsolute then q else { p with parts := p.parts ++ q.parts }

/-- The path without its last component. -/
def parent (p : Path) : Path := { p with parts := p.parts.dropLast }

/-- The last component, or nothing if there is none. -/
def name (p : Path) : Text := p.parts.getLastD []

/-- The name without its last suffix. -/
def stem (p : Path) : Text :=
  let reversed := p.name.reverse
  let suffix := reversed.takeWhile (· != '.')
  match reversed.drop suffix.length with
  | '.' :: front => if suffix.isEmpty || front.isEmpty then p.name else front.reverse
  | _ => p.name

/-- Whether the components of one path come before those of another, compared from left to right by
code points. -/
def partsBefore : List Text → List Text → Bool
  | _, [] => false
  | [], _ :: _ => true
  | s :: ss, t :: ts => Text.before s t || (s == t && partsBefore ss ts)

/-- A suffix begins at the last point inside a name. -/
example : (ofText "s//a.b.lua/.".toList).stem = "a.b".toList
    ∧ (ofText ".lua".toList).stem = ".lua".toList
    ∧ (ofText "a.".toList).stem = "a.".toList := by decide

end Path

/-- A name that stands for one file in a directory: one component that does not lead elsewhere. -/
structure IsFileName (name : Text) : Prop where
  not_mem_slash : '/' ∉ name
  ne_nil : name ≠ []
  ne_here : name ≠ ['.']
  ne_above : name ≠ "..".toList

instance (name : Text) : Decidable (IsFileName name) :=
  decidable_of_iff ('/' ∉ name ∧ name ≠ [] ∧ name ≠ ['.'] ∧ name ≠ "..".toList)
    ⟨fun ⟨hslash, hne, hhere, habove⟩ => ⟨hslash, hne, hhere, habove⟩,
      fun ⟨hslash, hne, hhere, habove⟩ => ⟨hslash, hne, hhere, habove⟩⟩

end LuaAccessors
