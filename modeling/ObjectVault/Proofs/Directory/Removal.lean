import ObjectVault.Proofs.Directory.Storage

/-!
# Stores that are removed

A session of a store keeps the path of a directory, and nothing keeps others from removing that
directory while the session is open. `invoke_of_removed`: from then on reads and deletions find
nothing and writes fail, without an effect on the file tree; the directory does not come back under an
open session.

* `FileTree.Missing`: a path leads nowhere. This is what becomes of every path to a directory within
  what is taken away (`missing_of_removeTree`).
-/

namespace ObjectVault

namespace FileTree

variable {tree after : FileTree} {place gone last dir : Place} {name : Name} {names : List Name}
  {path : Bytes}

/-! ### Walks to what has been taken away -/

/-- Nothing is taken away at the root, and nothing outside of the place that is cut off. -/
theorem get?_cut_of_outside (outside : ¬ (place ≠ [] ∧ gone <:+ place)) :
    (tree.cut gone).get? place = tree.get? place := by
  rw [get?_cut]
  split
  · next root => rw [root, get?_root]
  · next below => rw [if_neg fun inside => outside ⟨below, inside⟩]

theorem step_of_missing (missing : tree.get? place = none) (name : Name) :
    tree.step place name = .error .notFound := by
  simp only [step, missing]

/-- A walk into what has been taken away breaks off where the first directory is missing, or it ends
there. -/
theorem walk_cut (walks : tree.walk names place = .ok last) (below : last ≠ [])
    (inside : gone <:+ last) :
    (tree.cut gone).walk names place = .error .notFound ∨
      ∃ stop, (tree.cut gone).walk names place = .ok stop ∧ (tree.cut gone).get? stop = none := by
  have missing {other : Place} (taken : other ≠ [] ∧ gone <:+ other) :
      (tree.cut gone).get? other = none := by
    rw [get?_cut, if_neg taken.1, if_pos taken.2]
  induction names generalizing place with
  | nil =>
      cases walks
      exact .inr ⟨_, rfl, missing ⟨below, inside⟩⟩
  | cons name rest ih =>
      obtain ⟨inner, steps, onward⟩ := walk_cons_eq_ok.mp walks
      by_cases taken : place ≠ [] ∧ gone <:+ place
      · left
        rw [walk_cons, step_of_missing (missing taken)]
        rfl
      · -- the step leads on as before, since its directory is outside of what is gone
        have again : (tree.cut gone).step place name = .ok inner := by
          simpa only [step, get?_cut_of_outside taken] using steps
        have whole : (tree.cut gone).walk (name :: rest) place = (tree.cut gone).walk rest inner := by
          rw [walk_cons, again]
          rfl
        rw [whole]
        exact ih onward

/-! ### Paths that lead nowhere -/

/-- A path can be taken apart, but on the way along it or at its end there is nothing. -/
def Missing (tree : FileTree) (path : Bytes) : Prop :=
  ∃ parsed, Path.ofBytes path = .ok parsed ∧
    (tree.walk parsed.names (tree.start parsed) = .error .notFound ∨
      ∃ stop, tree.walk parsed.names (tree.start parsed) = .ok stop ∧ tree.get? stop = none)

/-- A removal succeeds exactly where the path finds something. -/
theorem removeTree_eq_ok_iff :
    tree.removeTree path = .ok after ↔
      ∃ place entry, tree.find path = .ok (place, some entry) ∧ after = tree.cut place := by
  rw [removeTree]
  rcases tree.find path with error | ⟨place, _ | entry⟩
  · simp [bind, Except.bind]
  · simp [bind, Except.bind, throw, throwThe, MonadExceptOf.throw]
  · simp [bind, Except.bind, pure, Except.pure, eq_comm]

/-- When a directory is removed, the paths through it to its own directories lead nowhere. -/
theorem missing_of_removeTree (plain : Path.Plain name)
    (located : tree.find (Path.child path name) = .ok (dir, some .directory))
    (removes : tree.removeTree path = .ok after) : after.Missing (Path.child path name) := by
  obtain ⟨gone, entry, found, rfl⟩ := removeTree_eq_ok_iff.mp removes
  obtain ⟨_, made, -⟩ := walk_of_find found
  have named : path ≠ [] := (Path.ofBytes_eq_ok.mp made).2.1
  obtain ⟨-, -, base, foundBase, rfl⟩ := find_parent named plain located
  cases found.symm.trans foundBase
  obtain ⟨parsed, made, walks, -⟩ := find_eq_directory.mp located
  exact ⟨parsed, made, walk_cut walks (List.cons_ne_nil name gone) (List.suffix_cons name gone)⟩

/-- What is below a path that leads nowhere is not found. -/
theorem Missing.find_child (missing : tree.Missing path) (plain : Path.Plain name)
    (near : (Path.child path name).length ≤ maxPathLength) :
    tree.find (Path.child path name) = .error .notFound := by
  obtain ⟨parsed, made, stops⟩ := missing
  have child_made := Path.ofBytes_child made plain
  rw [if_neg (Nat.not_lt_of_le near)] at child_made
  have breaks_off : tree.walk (parsed.names ++ [name]) (tree.start parsed) = .error .notFound := by
    rw [walk_append]
    rcases stops with breaks | ⟨stop, walks, nothing⟩
    · rw [breaks]
      rfl
    · rw [walks]
      exact (walk_singleton name stop).trans (step_of_missing nothing name)
  exact find_of_no_walk child_made breaks_off

/-- No temporary file is made along a path that leads nowhere. -/
theorem Missing.createTemporary (missing : tree.Missing path) :
    tree.createTemporary path = .error .notFound := by
  obtain ⟨parsed, made, breaks | ⟨stop, walks, nothing⟩⟩ := missing
  · rw [FileTree.createTemporary, find_of_no_walk made breaks]
    rfl
  · have found := find_of_walk made walks
    rw [nothing] at found
    rw [FileTree.createTemporary, found]
    rfl

end FileTree

namespace DirectoryStore

open Client FileTree

/-! ### Sessions whose directory is missing -/

section Missing

variable {tree : FileTree} {directory id : Bytes}

theorem find_objectPath_of_missing (missing : tree.Missing directory) (near : Near directory id) :
    tree.find (objectPath directory id) = .error .notFound :=
  missing.find_child (plain_objectName id) near.1

theorem run_load_of_missing (missing : tree.Missing directory) (near : Near directory id) :
    (load directory id).run tree = ⟨.ok none, tree, []⟩ := by
  have reads : tree.read (objectPath directory id) = .error .notFound := by
    rw [FileTree.read, find_objectPath_of_missing missing near]
    rfl
  simp [load, Action.run_bind, reads]

/-- Storing fails at the temporary file, and says so. -/
theorem run_store_of_missing (missing : tree.Missing directory) (id data : Bytes) :
    (store directory id data).run tree
      = ⟨.error (.trustedApp .generic), tree, [.storageFailed .create .notFound]⟩ := by
  simp [store, refused, Action.run_bind, Action.run_map, missing.createTemporary]

theorem run_remove_of_missing (missing : tree.Missing directory) (near : Near directory id) :
    (remove directory id).run tree = ⟨.ok false, tree, []⟩ := by
  have refuses : tree.remove (objectPath directory id) = .error .notFound := by
    rw [FileTree.remove, find_objectPath_of_missing missing near]
    rfl
  simp [remove, Action.run_bind, refuses]

/-- The reply to an order where the directory of the service is missing. -/
def missedReply : Order → Reply
  | .read _ => .read (.ok .notFound)
  | .write key _ => .write (.error (.backend .writeRaw key (.trustedApp .generic)))
  | .delete _ => .deletion (.ok .notFound)

/-- Where the directory is missing, orders are answered as if nothing had been stored, except that
nothing can be stored either. -/
theorem serve_of_missing (client : Client) {order : Order} (missing : tree.Missing directory)
    (near : Near directory order.key.bytes) :
    let served := (serve (objects directory) order).run tree
    client.reply order served.value = missedReply order ∧ served.state = tree := by
  cases order with
  | read key =>
      obtain ⟨replies, keeps, -⟩ :=
        run_serve_read client (objects directory) (run_load_of_missing missing near)
      exact ⟨replies, keeps⟩
  | write key payload =>
      obtain ⟨replies, keeps, -⟩ := run_serve_write client (objects directory)
        (run_store_of_missing missing key.bytes payload.padded)
      exact ⟨replies, keeps⟩
  | delete key =>
      obtain ⟨replies, keeps, -⟩ :=
        run_serve_delete client (objects directory) (run_remove_of_missing missing near)
      exact ⟨replies, keeps⟩

end Missing

/-- When the directory of a store is removed under an open session, whatever is ordered in the session
afterwards finds nothing and leaves nothing. -/
theorem invoke_of_removed {store : DirectoryStore} {tree after : FileTree} {dir : Place}
    {order : Order} (client : Client)
    (located : tree.find store.serviceDirectory = .ok (dir, some .directory))
    (removes : tree.removeTree store.root = .ok after)
    (near : Near store.serviceDirectory order.key.bytes) :
    let invoked :=
      (store.backend.invoke store.serviceDirectory order.command.id order.operation).run after
    client.reply order invoked.value = missedReply order ∧ invoked.state = after := by
  rw [serviceDirectory_eq] at located
  have missing := missing_of_removeTree store.plain_serviceName located removes
  rw [← serviceDirectory_eq] at missing
  have served := serve_of_missing client missing near
  rwa [← dispatch_order] at served

end DirectoryStore

end ObjectVault
