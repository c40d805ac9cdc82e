import LuaAccessors.Files.Path
import LuaAccessors.Text.Utf8

/-!
# File trees

A file tree holds the files and directories that a run sees, each under the components that lead to
it from the top. Reading a text turns its line ends into line feeds; a file that is not UTF-8 holds
no text.

- `FileContent`, `Node`, `FileTree`: files, directories, and a tree of them;
- `FileTree.walk`, `FileTree.find?`: where a path leads, `..` included;
- `FileTree.readText`, `FileTree.writeText`: reading and writing a file;
- `FileTree.makeDirectories`: a directory with all that lead to it;
- `FileFault`: what can go wrong.
-/

namespace LuaAccessors

/-! ## §1 Trees -/

/-- What a file holds. -/
inductive FileContent where
  | text (t : Text)
  /-- Bytes that are no text. -/
  | undecodable (e : DecodeError)
  deriving Repr, DecidableEq

/-- The content that bytes make up. -/
def FileContent.ofBytes (bytes : List UInt8) : FileContent :=
  match decodeUtf8 bytes with
  | .ok t => .text t
  | .error e => .undecodable e

/-- An entry of a file tree. -/
inductive Node where
  | file (content : FileContent)
  | directory
  deriving Repr, DecidableEq

/-- The entries of a tree under the components that lead to them; the top itself has no entry. -/
abbrev FileTree := List (List Text × Node)

/-- Why something cannot be done with a file. -/
inductive FileFault where
  /-- Something on the way to the path does not exist. -/
  | missing (path : Path)
  /-- Something on the way to the path is a file. -/
  | notADirectory (path : Path)
  /-- The path exists already. -/
  | exists (path : Path)
  /-- The path is a directory. -/
  | isADirectory (path : Path)
  /-- The file holds no text. -/
  | undecodable (e : DecodeError)
  deriving Repr, DecidableEq

/-- What is said of a fault. -/
def FileFault.message : FileFault → Text
  | .missing p => "[Errno 2] No such file or directory: ".toList ++ quoteText p.text
  | .notADirectory p => "[Errno 20] Not a directory: ".toList ++ quoteText p.text
  | .exists p => "[Errno 17] File exists: ".toList ++ quoteText p.text
  | .isADirectory p => "[Errno 21] Is a directory: ".toList ++ quoteText p.text
  | .undecodable e => e.message

namespace FileTree

/-- The components at which paths of a kind start. -/
def start (p : Path) : List Text := if p.isAbsolute then [['/']] else []

/-- Whether components lead to where paths start or to a directory above that place. -/
def isTop (key : List Text) : Bool := key == [['/']] || key.all (· == ['.', '.'])

/-- The entry under some components; where paths start and above there are directories. -/
def node? (t : FileTree) (key : List Text) : Option Node :=
  if isTop key then some .directory else t.lookup key

/-- The components that lead to the directory above. -/
def above (key : List Text) : List Text :=
  if key = [['/']] then key else if isTop key then key ++ [['.', '.']] else key.dropLast

/-- The tree with an entry. -/
def put : FileTree → List Text → Node → FileTree
  | [], key, node => [(key, node)]
  | (k, n) :: rest, key, node =>
    if k = key then (k, node) :: rest else (k, n) :: put rest key node

/-- The tree with directories where components that lead to an entry are missing. -/
def putParents (t : FileTree) (key : List Text) : FileTree :=
  (List.range key.length).foldl
    (fun t n =>
      let upper := key.take n
      if (node? t upper).isSome then t else put t upper .directory)
    t

/-- The tree with an entry and the directories that lead to it. -/
def place (t : FileTree) (key : List Text) (node : Node) : FileTree :=
  put (putParents t key) key node

/-- The tree without an entry and what is below it. -/
def remove (t : FileTree) (key : List Text) : FileTree := t.filter fun e => !key.isPrefixOf e.1

/-! ## §2 Paths in a tree

Two dots are resolved along the way and not before it, so a path leads nowhere if one of its components does,
even if the next one goes up again.
-/

/-- Why a path leads nowhere. -/
inductive WalkFault where
  | missing
  | notADirectory
  deriving Repr, DecidableEq

/-- Where some components lead from a place that should be a directory; the last of them need not
exist. -/
def walk (t : FileTree) (key : List Text) : List Text → Except WalkFault (List Text)
  | [] => .ok key
  | part :: rest =>
    match node? t key with
    | none => .error .missing
    | some (.file _) => .error .notADirectory
    | some .directory =>
      if part = ['.', '.'] then walk t (above key) rest
      else walk t (key ++ [part]) rest

/-- The components that a path leads to. -/
def locate (t : FileTree) (p : Path) : Except WalkFault (List Text) := walk t (start p) p.parts

/-- The entry that a path leads to, with its components. -/
def find? (t : FileTree) (p : Path) : Option (List Text × Node) :=
  match locate t p with
  | .error _ => none
  | .ok key => (node? t key).map fun node => (key, node)

/-- Whether a path leads to a directory. -/
def isDirectory (t : FileTree) (p : Path) : Bool :=
  match find? t p with
  | some (_, .directory) => true
  | _ => false

/-! ## §3 Files -/

/-- The text of the file that a path leads to. -/
def readText (t : FileTree) (p : Path) : Except FileFault Text :=
  match find? t p with
  | none => .error (.missing p)
  | some (_, .directory) => .error (.isADirectory p)
  | some (_, .file (.undecodable e)) => .error (.undecodable e)
  | some (_, .file (.text text)) => .ok text.normalizeLineEnds

/-- The tree with a text in the file that a path leads to. -/
def writeText (t : FileTree) (p : Path) (text : Text) : Except FileFault FileTree :=
  match locate t p with
  | .error .missing => .error (.missing p)
  | .error .notADirectory => .error (.notADirectory p)
  | .ok key =>
    match node? t key with
    | some .directory => .error (.isADirectory p)
    | _ => .ok (put t key (.file (.text text)))

/-! ## §4 Directories

A directory is tried before those that lead to it. Only if one of these is missing is the path taken apart.
-/

/-- The tree with a new directory in a directory that exists. -/
def makeDirectory (t : FileTree) (p : Path) : Except FileFault FileTree :=
  match locate t p with
  | .error .missing => .error (.missing p)
  | .error .notADirectory => .error (.notADirectory p)
  | .ok key =>
    match node? t key, node? t key.dropLast with
    | some _, _ => .error (.exists p)
    | none, some .directory => .ok (put t key .directory)
    | none, some (.file _) => .error (.notADirectory p)
    | none, none => .error (.missing p)

/-- The tree with a directory, unless it exists. -/
def ensureDirectory (t : FileTree) (p : Path) : Except FileFault FileTree :=
  match makeDirectory t p with
  | .ok t => .ok t
  | .error (.missing q) => .error (.missing q)
  | .error fault => if isDirectory t p then .ok t else .error fault

/-- The tree with a directory and all that lead to it. Without a directory to put it in, that one is
made first; what has been made then stays, also if the rest fails. -/
def makeDirectories (t : FileTree) (p : Path) : FileTree × Except FileFault Unit :=
  match ensureDirectory t p with
  | .ok t => (t, .ok ())
  | .error (.missing q) =>
    if _h : p.parts = [] then (t, .error (.missing q))
    else
      match makeDirectories t p.parent with
      | (t, .error fault) => (t, .error fault)
      | (t, .ok ()) =>
        match ensureDirectory t p with
        | .ok t => (t, .ok ())
        | .error fault => (t, .error fault)
  | .error fault => (t, .error fault)
termination_by p.parts.length
decreasing_by
  have := List.length_pos_iff.2 _h
  simp only [Path.parent, List.length_dropLast]
  omega

end FileTree

end LuaAccessors
