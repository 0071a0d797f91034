import ObjectVault.CommandLine.Run

/-!
# The program

Runs a command line on the files of the machine. The run itself is `Arguments.execute` on a file tree:
what lies along the paths that it can touch is copied into a tree before, and what differs in the tree
that it leaves is put on the disk afterwards.
-/

namespace ObjectVault.CommandLine

/-- The absolute path of a place, if all the names in it are text. -/
def diskPath? (place : Place) : Option String :=
  (place.reverse.mapM Utf8.text?).map fun names => "/" ++ String.intercalate "/" names

/-- The tree with what the disk has at a place. -/
def copyPlace (tree : FileTree) (place : Place) : IO FileTree := do
  let some text := diskPath? place | return tree
  let path := (← IO.currentDir) / text
  if ← path.isDir then return (tree.makeDirectory place).toOption.getD tree
  if ← path.pathExists then
    return (tree.makeFile place (← IO.FS.readBinFile path).toList).toOption.getD tree
  return tree

/-- The tree with what the disk has along a path. -/
def copyAlong (tree : FileTree) (path : Bytes) : IO FileTree := do
  let .ok path := Path.ofBytes path | return tree
  let mut tree := tree
  let mut place := tree.start path
  for name in path.names do
    let .ok next := tree.step place name | return tree
    tree ← copyPlace tree next
    place := next
  return tree

/-- A tree that relative paths lead through from the directory that the program runs in. -/
def currentTree : IO FileTree := do
  let directory := Utf8.ofText (← IO.currentDir).toString
  let tree ← copyAlong .empty directory
  let place := (tree.find directory).toOption.map Prod.fst
  return { tree with current := place.getD [] }

/-- Puts on the disk what a tree has at a place. Contents are renamed into place. -/
def writeBack (place : Place) (entry : Option FileEntry) : IO Unit := do
  let some path := diskPath? place | throw (IO.userError "a name in a path is not text")
  match entry with
  | none => IO.FS.removeFile path
  | some .directory => IO.FS.createDirAll path
  | some (.file data) =>
      let temporary := path ++ ".new"
      IO.FS.writeBinFile temporary ⟨data.toArray⟩
      IO.FS.rename temporary path

def Report.print (report : Report) : IO UInt32 := do
  IO.print report.output
  IO.eprint report.errors
  return UInt32.ofNat report.status

/-- Runs a command line on the disk. -/
def Arguments.runOnDisk (arguments : Arguments) : IO UInt32 := do
  let tree ← arguments.config.toList.foldlM copyAlong (← currentTree)
  let before ← match arguments.settings tree with
    | .ok settings => (arguments.paths settings).foldlM copyAlong tree
    | .error _ => pure tree
  let outcome := arguments.execute.run before
  for event in outcome.events.filter arguments.shows do
    IO.eprintln event.line
  for (place, entry) in before.changes outcome.state do
    writeBack place entry
  (Report.ofResult outcome.value).print

end ObjectVault.CommandLine

def main (args : List String) : IO UInt32 :=
  match ObjectVault.CommandLine.Arguments.parse (args.map ObjectVault.Utf8.ofText) with
  | .error halt => (ObjectVault.CommandLine.Report.ofHalt halt).print
  | .ok arguments => arguments.runOnDisk
