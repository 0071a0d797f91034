import ObjectVault.Proofs.Directory.Calls

/-!
# What a store holds

Once the directory of a service is there, an order is decided by what stands in one place, that of the
file of its object: the reply is `heldReply`, what stands in the place afterwards is `entryAfter`, and
no other place is touched (`serve_held`). `held` tells what the place amounts to for the service:
contents, nothing, or a failure where the place cannot be used.
-/

namespace ObjectVault

namespace DirectoryStore

open Client FileTree

instance (directory id : Bytes) : Decidable (Near directory id) := by
  unfold Near; infer_instance

/-- What a store holds for an id, from what stands in the place of its file. -/
def held (directory id : Bytes) (entry : Option FileEntry) : Except Failure (Option Bytes) :=
  if Near directory id then
    match entry with
    | none => .ok none
    | some (.file data) => .ok (some data)
    | some .directory => .error (.trustedApp .generic)
  else .error (.trustedApp .generic)

/-- The reply to an order, from what is held for its object. -/
def heldReply (policy : ShortReadPolicy) : Order → Except Failure (Option Bytes) → Reply
  | .read key, held => loadedReply policy key held
  | .write key _, held => .write ((held.map fun _ => ()).mapError (.backend .writeRaw key))
  | .delete key, held => removedReply policy key (held.map Option.isSome)

/-- What stands in a place after a change that only comes about where the place can be used. -/
def settled (held : Except Failure (Option Bytes)) (new old : Option FileEntry) : Option FileEntry :=
  match held with
  | .ok _ => new
  | .error _ => old

/-- What stands in the place of an object's file after an order, from what is held for the object and
from what stood there before. -/
def entryAfter : Order → Except Failure (Option Bytes) → Option FileEntry → Option FileEntry
  | .read _, _, entry => entry
  | .write _ payload, held, entry => settled held (some (.file payload.padded)) entry
  | .delete _, held, entry => settled held none entry

section Serving

variable {tree : FileTree} {directory id : Bytes} {dir : Place}

/-- Where the place cannot be used, what is held is a failure. -/
theorem held_of_blocked {entry : Option FileEntry}
    (blocked : Near directory id → entry = some .directory) :
    held directory id entry = .error (.trustedApp .generic) := by
  unfold held
  split
  · next near => rw [blocked near]
  · rfl

theorem held_of_near (near : Near directory id) (stored : Option Bytes) :
    held directory id (stored.map .file) = .ok stored := by
  unfold held
  rw [if_pos near]
  cases stored with
  | none => rfl
  | some data => rfl

theorem held_of_clear {entry : Option FileEntry} (near : Near directory id)
    (clear : entry ≠ some .directory) :
    ∃ stored, held directory id entry = .ok stored ∧ entry = stored.map .file := by
  unfold held
  rw [if_pos near]
  rcases entry with _ | _ | data
  · exact ⟨none, rfl, rfl⟩
  · exact absurd rfl clear
  · exact ⟨some data, rfl, rfl⟩

/-- A place can be used, or it is blocked. -/
theorem blocked_or_clear (directory id : Bytes) (entry : Option FileEntry) :
    (Near directory id → entry = some .directory) ∨
      (Near directory id ∧ entry ≠ some .directory) := by
  by_cases blocked : Near directory id → entry = some .directory
  · exact .inl blocked
  · exact .inr (Classical.not_imp.mp blocked)

/-- Where something is held, the place can be used, and that is what stands there. -/
theorem near_of_held {entry : Option FileEntry} {stored : Option Bytes}
    (holds : held directory id entry = .ok stored) :
    Near directory id ∧ entry = stored.map .file := by
  rcases blocked_or_clear directory id entry with blocked | ⟨near, clear⟩
  · rw [held_of_blocked blocked] at holds
    cases holds
  · obtain ⟨other, same, stands⟩ := held_of_clear near clear
    cases same.symm.trans holds
    exact ⟨near, stands⟩

/-- Nothing changes where the entry at a place is put there again. -/
theorem updated_of_unchanged {before after : FileTree} (unchanged : Unchanged before after)
    (place : Place) : Updated before after place (before.get? place) := by
  refine ⟨unchanged.current, ?_⟩
  intro other
  rw [unchanged.get?]
  split
  · next same => rw [same]
  · rfl

/-- Loading gives what is held, and leaves the tree alone. -/
theorem load_held (located : tree.find directory = .ok (dir, some .directory)) (id : Bytes) :
    ∃ e, (load directory id).run tree
      = ⟨held directory id (tree.get? (objectName id :: dir)), tree, e⟩ := by
  obtain blocked | ⟨near, clear⟩ := blocked_or_clear directory id (tree.get? (objectName id :: dir))
  · rw [held_of_blocked blocked]
    by_cases near : Near directory id
    · have target := find_objectPath located near
      rw [blocked near] at target
      have reads : tree.read (objectPath directory id) = .error .isDirectory := by
        simp only [FileTree.read, target, bind, Except.bind, throw, throwThe, MonadExceptOf.throw]
      exact ⟨[.storageFailed .read .isDirectory], by
        simp [load, refused, Action.run_bind, Action.run_map, reads]⟩
    · have reads : tree.read (objectPath directory id) = .error .nameTooLong := by
        simp only [FileTree.read, find_objectPath_of_far located near, bind, Except.bind]
      exact ⟨[.storageFailed .read .nameTooLong], by
        simp [load, refused, Action.run_bind, Action.run_map, reads]⟩
  · obtain ⟨stored, holds, stands⟩ := held_of_clear near clear
    rw [holds]
    exact ⟨[], run_load located near stands⟩

/-- Storing replaces what is held, or fails with what is held and changes nothing. -/
theorem store_held (located : tree.find directory = .ok (dir, some .directory)) (id data : Bytes) :
    let place := objectName id :: dir
    let held := held directory id (tree.get? place)
    ∃ after e, (store directory id data).run tree = ⟨held.map fun _ => (), after, e⟩ ∧
      Updated tree after place (settled held (some (.file data)) (tree.get? place)) := by
  dsimp only
  obtain blocked | ⟨near, clear⟩ := blocked_or_clear directory id (tree.get? (objectName id :: dir))
  · rw [held_of_blocked blocked]
    obtain ⟨after, e, stores, nothing⟩ := run_store_of_blocked located blocked data
    exact ⟨after, e, stores, updated_of_unchanged nothing _⟩
  · obtain ⟨stored, holds, -⟩ := held_of_clear near clear
    rw [holds]
    exact run_store located near clear data

/-- Removing tells whether something is held and takes it away, or fails with what is held. -/
theorem remove_held (located : tree.find directory = .ok (dir, some .directory)) (id : Bytes) :
    let place := objectName id :: dir
    let held := held directory id (tree.get? place)
    ∃ after e, (remove directory id).run tree = ⟨held.map Option.isSome, after, e⟩ ∧
      Updated tree after place (settled held none (tree.get? place)) := by
  dsimp only
  obtain blocked | ⟨near, clear⟩ := blocked_or_clear directory id (tree.get? (objectName id :: dir))
  · rw [held_of_blocked blocked]
    have same := updated_of_unchanged (.refl tree) (objectName id :: dir)
    by_cases near : Near directory id
    · have target := find_objectPath located near
      rw [blocked near] at target
      have refuses : tree.remove (objectPath directory id) = .error .isDirectory := by
        simp [FileTree.remove, target, bind, Except.bind, unlink, blocked near]
      refine ⟨tree, [.storageFailed .remove .isDirectory], ?_, same⟩
      simp [remove, refused, Action.run_bind, Action.run_map, refuses, Except.map]
    · have refuses : tree.remove (objectPath directory id) = .error .nameTooLong := by
        simp only [FileTree.remove, find_objectPath_of_far located near, bind, Except.bind]
      refine ⟨tree, [.storageFailed .remove .nameTooLong], ?_, same⟩
      simp [remove, refused, Action.run_bind, Action.run_map, refuses, Except.map]
  · obtain ⟨stored, holds, stands⟩ := held_of_clear near clear
    rw [holds]
    obtain ⟨after, removes, drops⟩ := run_remove located near stands
    exact ⟨after, [], removes, drops⟩

/-- An order is decided by what stands in the place of its object's file, and changes nothing else. -/
theorem serve_held (client : Client) (order : Order)
    (located : tree.find directory = .ok (dir, some .directory)) :
    let place := objectName order.key.bytes :: dir
    let held := held directory order.key.bytes (tree.get? place)
    let served := (serve (objects directory) order).run tree
    client.reply order served.value = heldReply client.policy order held ∧
      Updated tree served.state place (entryAfter order held (tree.get? place)) := by
  cases order with
  | read key =>
      obtain ⟨e, loads⟩ := load_held located key.bytes
      obtain ⟨replies, keeps, -⟩ := run_serve_read client (objects directory) loads
      refine ⟨replies, ?_⟩
      rw [keeps]
      exact updated_of_unchanged (.refl tree) _
  | write key payload =>
      obtain ⟨after, e, stores, puts⟩ := store_held located key.bytes payload.padded
      obtain ⟨replies, keeps, -⟩ := run_serve_write client (objects directory) stores
      refine ⟨replies, ?_⟩
      rw [keeps]
      exact puts
  | delete key =>
      obtain ⟨after, e, removes, drops⟩ := remove_held located key.bytes
      obtain ⟨replies, keeps, -⟩ := run_serve_delete client (objects directory) removes
      refine ⟨replies, ?_⟩
      rw [keeps]
      exact drops

end Serving

end DirectoryStore

end ObjectVault
