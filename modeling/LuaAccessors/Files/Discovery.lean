import LuaAccessors.Files.Tree
import LuaAccessors.Script

/-!
# Discovery of scripts

Inputs are files and directories. A file is taken as it is; of a directory all files below it whose
name ends in `.lua` are taken, in the order of their components, except below directories of names
that stand for tools and their products.

- `scriptsBelow`: the scripts of a directory;
- `readScript`: a script with its text, or with the reason why it has none;
- `collectScripts`: the scripts of all inputs.
-/

namespace LuaAccessors

/-- The names of directories that hold no scripts. -/
def skippedNames : List Text :=
  [".git", "node_modules", "__pycache__", "venv", ".venv", "build", "dist"].map String.toList

/-- Whether a file is a script of the directory above, where `parts` lead to it from there. -/
def isScriptBelow (parts : List Text) : Bool :=
  ".lua".toList.isSuffixOf (parts.getLastD []) && !(parts.any skippedNames.contains)

/-- The components that lead from a directory down to an entry below it. The place where paths start and
those above it are below nothing. -/
def partsBelow? (directory entry : List Text) : Option (List Text) :=
  match directory.isPrefixOf? entry with
  | some (part :: parts) =>
    if FileTree.isTop (directory ++ [part]) then none else some (part :: parts)
  | _ => none

/-- The components that lead from a directory down to an entry, if it is a script of the directory. -/
def scriptParts? (directory : List Text) (e : List Text × Node) : Option (List Text) :=
  match e.2, partsBelow? directory e.1 with
  | .file _, some parts => if isScriptBelow parts then some parts else none
  | _, _ => none

/-- The paths of the scripts below a directory. -/
def scriptsBelow (t : FileTree) (root : Path) : List Path :=
  match t.find? root with
  | some (key, .directory) =>
    ((t.filterMap (scriptParts? key)).mergeSort fun a b => !Path.partsBefore b a).map root.below
  | _ => []

/-- An input that does not exist. -/
structure MissingInput where
  path : Path
  deriving Repr, DecidableEq

/-- What is said of an input that does not exist. -/
def MissingInput.message (m : MissingInput) : Text :=
  "Input file not found: ".toList ++ m.path.text

/-- The script that a path leads to. -/
def readScript (t : FileTree) (p : Path) : Except MissingInput Script :=
  match t.find? p with
  | none => .error ⟨p⟩
  | some _ =>
    match t.readText p with
    | .ok text => .ok { path := p.text, text := .text text }
    | .error fault => .ok { path := p.text, readError := some fault.message }

/-- The scripts of one input. -/
def collectInput (t : FileTree) (p : Path) : Except MissingInput (List Script) :=
  if t.isDirectory p then (scriptsBelow t p).mapM (readScript t)
  else (readScript t p).map fun s => [s]

/-- The scripts of all inputs, in order. -/
def collectScripts (t : FileTree) (inputs : List Path) : Except MissingInput (List Script) :=
  (inputs.mapM (collectInput t)).map List.flatten

end LuaAccessors
