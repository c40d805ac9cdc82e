import LuaAccessors.CommandLine.Run

/-!
# The command line

Brings the files that a run may look at into a file tree, runs, and carries out what the run has
printed and written. All decisions are the run's.
-/

namespace LuaAccessors.CommandLine

/-- The text of the path that the components of an entry stand for. -/
def keyText (key : List Text) : String :=
  let p : Path := match key with
    | ['/'] :: parts => { isAbsolute := true, parts }
    | parts => { parts }
  String.ofList p.text

/-- The tree with what is found at an entry, if anything is. -/
def loadEntry (t : FileTree) (key : List Text) : IO FileTree := do
  try
    let place ← IO.FS.realPath (keyText key)
    if ← place.isDir then return t.put key .directory
    else return t.put key (.file (.ofBytes (← IO.FS.readBinFile place).toList))
  catch _ => return t

/-- The tree with everything below a directory. -/
partial def loadBelow (t : FileTree) (key : List Text) : IO FileTree := do
  let place ← IO.FS.realPath (keyText key)
  let mut t := t
  for entry in ← place.readDir do
    let child := key ++ [entry.fileName.toList]
    t ← loadEntry t child
    if t.lookup child = some .directory then t ← loadBelow t child
  return t

/-- The tree with the entries on the way to a path. -/
def loadWay (t : FileTree) (p : Path) : IO FileTree := do
  let mut t := t
  for n in List.range p.parts.length do
    match t.locate { p with parts := p.parts.take (n + 1) } with
    | .ok key => if (t.node? key).isNone then t ← loadEntry t key
    | .error _ => return t
  return t

/-- The tree with an input and everything below it. -/
def loadInput (t : FileTree) (p : Path) : IO FileTree := do
  let t ← loadWay t p
  match t.find? p with
  | some (key, .directory) => loadBelow t key
  | _ => return t

/-- The tree with the files of a directory. -/
def loadDirectory (t : FileTree) (p : Path) : IO FileTree := do
  let mut t ← loadWay t p
  match t.find? p with
  | some (key, .directory) =>
    let place ← IO.FS.realPath (keyText key)
    for entry in ← place.readDir do
      let child := key ++ [entry.fileName.toList]
      if (t.node? child).isNone then t ← loadEntry t child
    return t
  | _ => return t

/-- What a run with the given arguments may look at. -/
def loadTree (arguments : List Text) : IO FileTree := do
  match Options.parse arguments with
  | .error _ => return []
  | .ok o =>
    let mut t : FileTree := []
    if let some config := o.config then t ← loadWay t (Path.ofText config)
    for input in o.inputs do t ← loadInput t (Path.ofText input)
    if let .ok (.ok settings) := loadSettings tools t o then
      t ← loadDirectory t (Path.ofText settings.outputDir)
    return t

/-- Makes the directories and writes the files by which a tree differs from an earlier one. -/
def store (before after : FileTree) : IO Unit := do
  for (key, node) in after do
    if before.lookup key != some node then
      match node with
      | .directory => IO.FS.createDirAll (keyText key)
      | .file (.text t) => IO.FS.writeFile (keyText key) (String.ofList t)
      | .file (.undecodable _) => pure ()

end LuaAccessors.CommandLine

open LuaAccessors LuaAccessors.CommandLine in
/-- Runs with the arguments of the process. -/
def main (arguments : List String) : IO UInt32 := do
  let words := arguments.map String.toList
  let tree ← loadTree words
  let outcome := run tree words
  store tree outcome.tree
  IO.print (String.ofList (printed outcome.stdout))
  IO.eprint (String.ofList (printed outcome.stderr))
  match outcome.status with
  | .ok status => return status.toUInt32
  | .error fault =>
    IO.eprintln (String.ofList fault.message)
    return 1
