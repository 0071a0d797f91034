import ObjectVault.Backend
import ObjectVault.FileTree

/-!
# The backend in a directory

A backend that hosts one service and keeps each of its objects in a file. The files of a service are
in a directory of their own below the store's, under the hexadecimal spelling of the object id.
Contents go to a temporary file first, which is then renamed, so that no file is ever half written.

The state is the file tree. What goes wrong in it is reported, and the host hears of it as a failure
of the connection or as a general failure of the service.
-/

namespace ObjectVault

/-- A directory in which a service keeps its objects. -/
structure DirectoryStore where
  /-- The path of the store. -/
  root : Bytes
  service : ServiceId
  deriving DecidableEq

namespace DirectoryStore

def debug (store : DirectoryStore) : String :=
  Text.record "FileTee"
    [("root", Text.quotedBytes store.root), ("service", store.service.debug)]

def serviceDirectory (store : DirectoryStore) : Bytes :=
  Path.child store.root (Utf8.ofText store.service.text)

def objectName (id : Bytes) : Name := Utf8.ofText (id.hex ++ ".obj")

def objectPath (directory id : Bytes) : Bytes := Path.child directory (objectName id)

/-- Reports that the file system refused an action, and makes a failure of it. -/
def refused {α : Type} (action : StorageAction) (cause : FileError) :
    Action FileTree (Except Failure α) := do
  Action.report (.storageFailed action cause)
  return .error (.trustedApp .generic)

/-- The bytes in the file of an object, if there is one. -/
def load (directory id : Bytes) : Action FileTree (Except Failure (Option Bytes)) := do
  match (← Action.get).read (objectPath directory id) with
  | .ok data => return .ok (some data)
  | .error .notFound => return .ok none
  | .error cause => refused .read cause

/-- Puts the temporary file in the place of an object's file, or takes it away again. -/
def persist (temporary : Place) (path : Bytes) (length : Nat) :
    Action FileTree (Except Failure Unit) := do
  let tree ← Action.get
  match tree.rename temporary path with
  | .ok tree =>
      Action.set tree
      Action.report (.objectStored path length)
      return .ok ()
  | .error cause =>
      Action.set ((tree.unlink temporary).toOption.getD tree)
      refused .persist cause

def store (directory id data : Bytes) : Action FileTree (Except Failure Unit) := do
  match (← Action.get).createTemporary directory with
  | .error cause => refused .create cause
  | .ok (tree, temporary) =>
      match tree.makeFile temporary data with
      | .error cause => refused .write cause
      | .ok tree =>
          Action.set tree
          persist temporary (objectPath directory id) data.length

/-- Removes the file of an object, and says whether there was one. -/
def remove (directory id : Bytes) : Action FileTree (Except Failure Bool) := do
  match (← Action.get).remove (objectPath directory id) with
  | .ok tree =>
      Action.set tree
      return .ok true
  | .error .notFound => return .ok false
  | .error cause => refused .remove cause

def objects (directory : Bytes) : ObjectTable FileTree where
  load := load directory
  store := store directory
  remove := remove directory

/-- The backend over a store. A context and a session both are the path of the service's directory,
which is made when a context is. -/
def backend (store : DirectoryStore) : Backend FileTree Bytes Bytes where
  connect := do
    let directory := store.serviceDirectory
    let (tree, result) := (← Action.get).createDirectories directory
    Action.set tree
    match result with
    | .ok () => return .ok directory
    | .error cause =>
        Action.report (.directoryUnavailable directory cause)
        return .error (.api .communication)
  openSession directory service _ :=
    if service = store.service then return .ok directory
    else return .error (.tee .itemNotFound)
  invoke directory number op := Service.dispatch (objects directory) number op
  closeSession _ _ := return ()
  finalize _ := return ()

end DirectoryStore

end ObjectVault
