import ObjectVault.FileTree.Path
import ObjectVault.Table

/-!
# File trees

Directories and regular files, without links and without permissions. A tree is a finite map from
places to entries; its type says that whatever is in the map lies in a directory. It is read through
`get?`, and `get?_put`, `get?_drop` and `get?_cut` say what the three changes do to that
reading. The program itself puts and drops; a whole directory is only ever removed by others, which a
store has to live with.

The operations on paths follow: each gives the tree that it leaves, or the reason why it changes
nothing; only `createDirectories` can fail half way. `changes` lists how two trees differ, and
`mem_changes` says that it leaves nothing out.
-/

namespace ObjectVault

/-- A place in a file tree: the names that lead to it, the innermost first. -/
abbrev Place := List Name

/-- What is at a place. -/
inductive FileEntry where
  | directory
  | file (data : Bytes)
  deriving DecidableEq

/-- What is at a place, by a map that leaves the root out. -/
def entryIn (entries : Table Place FileEntry) (place : Place) : Option FileEntry :=
  if place = [] then some .directory else entries.lookup place

/-- A tree of directories and regular files, and the directory that relative paths start from. -/
structure FileTree where
  entries : Table Place FileEntry
  current : Place
  rooted : ∀ name dir, (entries.lookup (name :: dir)).isSome → entryIn entries dir = some .directory

namespace FileTree

def empty : FileTree where
  entries := .empty
  current := []
  rooted := by simp

instance : Inhabited FileTree := ⟨empty⟩

/-- What is at a place. -/
def get? (tree : FileTree) (place : Place) : Option FileEntry := entryIn tree.entries place

@[simp] theorem get?_root (tree : FileTree) : tree.get? [] = some .directory := rfl

/-- Whatever there is lies in a directory. -/
theorem get?_parent {tree : FileTree} {name : Name} {dir : Place}
    (there : (tree.get? (name :: dir)).isSome) : tree.get? dir = some .directory :=
  tree.rooted name dir (by simpa [get?, entryIn] using there)

/-! ### Changes at a place -/

/-- Puts an entry in a directory; a directory stays one. -/
def put (tree : FileTree) (name : Name) (dir : Place) (entry : FileEntry)
    (parent : tree.get? dir = some .directory)
    (kept : tree.get? (name :: dir) = some .directory → entry = .directory) : FileTree where
  entries := tree.entries.insert (name :: dir) entry
  current := tree.current
  rooted := by
    intro inner place there
    have old := tree.rooted inner place
    simp only [get?, entryIn, Table.lookup_insert] at *
    grind

/-- Takes away what is at a place, if that is no directory. -/
def drop (tree : FileTree) (place : Place) (leaf : tree.get? place ≠ some .directory) :
    FileTree where
  entries := tree.entries.erase place
  current := tree.current
  rooted := by
    intro inner dir there
    have old := tree.rooted inner dir
    simp only [get?, entryIn, Table.lookup_erase] at *
    grind

/-- Takes away what is at a place and below it. -/
def cut (tree : FileTree) (place : Place) : FileTree where
  entries := tree.entries.filter fun other => !place.isSuffixOf other
  current := tree.current
  rooted := by
    intro inner dir there
    have old := tree.rooted inner dir
    have deeper : place <:+ dir → place <:+ inner :: dir := fun h => h.trans (List.suffix_cons _ _)
    simp only [entryIn, Table.lookup_filter] at *
    grind

/-- What has been put is there, and everything else is as before. -/
theorem get?_put {tree : FileTree} {name : Name} {dir : Place} {entry : FileEntry}
    {parent : tree.get? dir = some .directory}
    {kept : tree.get? (name :: dir) = some .directory → entry = .directory} (place : Place) :
    (tree.put name dir entry parent kept).get? place
      = if place = name :: dir then some entry else tree.get? place := by
  simp only [put, get?, entryIn, Table.lookup_insert]
  grind

/-- What has been dropped is not there, and everything else is as before. -/
theorem get?_drop {tree : FileTree} {gone : Place} {leaf : tree.get? gone ≠ some .directory}
    (place : Place) :
    (tree.drop gone leaf).get? place = if place = gone then none else tree.get? place := by
  have notRoot : gone ≠ [] := by rintro rfl; exact leaf rfl
  simp only [drop, get?, entryIn, Table.lookup_erase]
  grind

/-- Only the root stays of what is at or below a place that is cut off. -/
theorem get?_cut (tree : FileTree) (gone place : Place) :
    (tree.cut gone).get? place
      = if place = [] then some .directory
        else if gone <:+ place then none else tree.get? place := by
  simp only [cut, get?, entryIn, Table.lookup_filter]
  grind

/-- Makes a directory, unless there is one. -/
def makeDirectory (tree : FileTree) (place : Place) : Except FileError FileTree :=
  match place with
  | [] => .ok tree
  | name :: dir =>
      if parent : tree.get? dir = some .directory then
        match found : tree.get? (name :: dir) with
        | none => .ok (tree.put name dir .directory parent (by simp [found]))
        | some .directory => .ok tree
        | some (.file _) => .error .occupied
      else .error (if tree.get? dir = none then .notFound else .notDirectory)

/-- Makes a file with the given contents, in place of any earlier file. -/
def makeFile (tree : FileTree) (place : Place) (data : Bytes) : Except FileError FileTree :=
  match place with
  | [] => .error .isDirectory
  | name :: dir =>
      if parent : tree.get? dir = some .directory then
        if isDirectory : tree.get? (name :: dir) = some .directory then .error .isDirectory
        else .ok (tree.put name dir (.file data) parent (absurd · isDirectory))
      else .error (if tree.get? dir = none then .notFound else .notDirectory)

def unlink (tree : FileTree) (place : Place) : Except FileError FileTree :=
  if isDirectory : tree.get? place = some .directory then .error .isDirectory
  else if tree.get? place = none then .error .notFound
  else .ok (tree.drop place isDirectory)

/-! ### Walking along a path -/

def step (tree : FileTree) (place : Place) (name : Name) : Except FileError Place :=
  match tree.get? place with
  | none => .error .notFound
  | some (.file _) => .error .notDirectory
  | some .directory =>
      if name = Path.here then .ok place
      else if name = Path.above then .ok place.tail
      else if maxNameLength < name.length then .error .nameTooLong
      else .ok (name :: place)

def start (tree : FileTree) (path : Path) : Place := if path.absolute then [] else tree.current

/-- The place that a path names, and what is there. All but the last name of the path have to be
there. -/
def find (tree : FileTree) (path : Bytes) : Except FileError (Place × Option FileEntry) := do
  let path ← Path.ofBytes path
  let place ← path.names.foldlM tree.step (tree.start path)
  match tree.get? place with
  | some (.file data) =>
      if path.closed then throw .notDirectory
      return (place, some (.file data))
  | entry => return (place, entry)

/-! ### Operations on paths -/

def read (tree : FileTree) (path : Bytes) : Except FileError Bytes := do
  match ← tree.find path with
  | (_, some (.file data)) => return data
  | (_, some .directory) => throw .isDirectory
  | (_, none) => throw .notFound

def readText (tree : FileTree) (path : Bytes) : Except FileError String := do
  match Utf8.text? (← tree.read path) with
  | some text => return text
  | none => throw .notText

/-- Puts contents in a file, whether it is there or not. -/
def write (tree : FileTree) (path data : Bytes) : Except FileError FileTree := do
  let (place, _) ← tree.find path
  tree.makeFile place data

/-- Takes the file away that a path names. -/
def remove (tree : FileTree) (path : Bytes) : Except FileError FileTree := do
  let (place, _) ← tree.find path
  tree.unlink place

/-- Takes away what a path names, with all that is below it. The program never does this; others can do
it to a store that is in use. -/
def removeTree (tree : FileTree) (path : Bytes) : Except FileError FileTree := do
  match ← tree.find path with
  | (place, some _) => return tree.cut place
  | (_, none) => throw .notFound

/-- Makes the directories that are missing along some names; those made before a failure stay. A file
is in the way as the last directory, and is no directory to go on from before that. -/
def createAlong : FileTree → Place → List Name → FileTree × Except FileError Unit
  | tree, _, [] => (tree, .ok ())
  | tree, place, name :: rest =>
      match tree.step place name with
      | .error error => (tree, .error error)
      | .ok inner =>
          match tree.makeDirectory inner with
          | .error error => (tree, .error (if rest = [] then error else .notDirectory))
          | .ok tree => createAlong tree inner rest

/-- Makes the directory that a path names, and those above it, as far as they are missing. -/
def createDirectories (tree : FileTree) (path : Bytes) : FileTree × Except FileError Unit :=
  match Path.ofBytes path with
  | .error error => (tree, .error error)
  | .ok path => createAlong tree (tree.start path) path.names

/-! ### Temporary files -/

/-- A name that nothing in the tree has. -/
def freshName (tree : FileTree) : Name :=
  let longest := tree.entries.bindings.foldl (fun size entry => max size (entry.1.headD []).length) 0
  List.replicate (longest + 1) 0x74

/-- Makes an empty file under a new name in the directory that a path names. -/
def createTemporary (tree : FileTree) (directory : Bytes) : Except FileError (FileTree × Place) := do
  match ← tree.find directory with
  | (_, none) => throw .notFound
  | (_, some (.file _)) => throw .notDirectory
  | (dir, some .directory) =>
      let place := tree.freshName :: dir
      return (← tree.makeFile place [], place)

/-- Moves a file to where a path leads, in place of any earlier file. -/
def rename (tree : FileTree) (source : Place) (path : Bytes) : Except FileError FileTree := do
  match tree.get? source with
  | none => throw .notFound
  | some .directory => throw .isDirectory
  | some (.file data) =>
      let (place, _) ← tree.find path
      let moved ← tree.makeFile place data
      if place = source then return moved
      moved.unlink source

/-! ### Listing -/

/-- Whether one place comes before another when a tree is listed: a directory before what is in it,
and siblings by the bytes of their names. -/
def placeLE (a b : Place) : Bool := (compare a.reverse b.reverse).isLE

/-- All that is below a place, in the order of `placeLE`. -/
def below (tree : FileTree) (place : Place) : List (Place × FileEntry) :=
  let inside := tree.entries.bindings.filter fun entry =>
    place.isSuffixOf entry.1 && entry.1 ≠ place
  inside.mergeSort fun a b => placeLE a.1 b.1

/-- The places where two trees differ, in the order of `placeLE`, with what is there in the second. -/
def changes (before after : FileTree) : List (Place × Option FileEntry) :=
  let places := ((before.entries.bindings ++ after.entries.bindings).map Prod.fst).eraseDups
  let changed := places.filter fun place => before.get? place ≠ after.get? place
  (changed.mergeSort placeLE).map fun place => (place, after.get? place)

/-- No difference is left out, and nothing else is in the list. -/
theorem mem_changes {before after : FileTree} {place : Place} {entry : Option FileEntry} :
    (place, entry) ∈ changes before after
      ↔ before.get? place ≠ after.get? place ∧ entry = after.get? place := by
  have known : before.get? place ≠ after.get? place →
      place ∈ (before.entries.bindings ++ after.entries.bindings).map Prod.fst := by
    intro differ
    simp only [List.map_append, List.mem_append, ← Table.lookup_isSome]
    simp only [get?, entryIn] at differ
    cases h : before.entries.lookup place <;> cases h' : after.entries.lookup place <;> simp_all
  simp only [changes, List.mem_map, List.mem_mergeSort, List.mem_filter, List.mem_eraseDups]
  grind

end FileTree

end ObjectVault
