import ObjectVault.Proofs.Directory.Names
import ObjectVault.Proofs.FileTree.Effects
import ObjectVault.Proofs.Service.Orders

/-!
# Storage in a directory

What the three actions on the files of objects do, over every file tree in which the directory of the
service is there. An action has effect where the path of the file is not too long and no directory is
in the file's place; otherwise it fails, and the tree reads as before.
-/

namespace ObjectVault

namespace DirectoryStore

open FileTree

/-- The path of the file of an object is not too long. -/
def Near (directory id : Bytes) : Prop :=
  (objectPath directory id).length ≤ maxPathLength ∧ (objectName id).length ≤ maxNameLength

variable {tree after : FileTree} {directory id data : Bytes} {dir : Place}

/-- The path of an object's file leads into the directory, whether the file is there or not. -/
theorem find_objectPath (located : tree.find directory = .ok (dir, some .directory))
    (near : Near directory id) :
    tree.find (objectPath directory id)
      = .ok (objectName id :: dir, tree.get? (objectName id :: dir)) := by
  rw [objectPath]
  exact find_child_of_fits located (plain_objectName id) near.1 near.2

theorem find_objectPath_of_far (located : tree.find directory = .ok (dir, some .directory))
    (far : ¬ Near directory id) : tree.find (objectPath directory id) = .error .nameTooLong := by
  rw [objectPath, find_child located (plain_objectName id), if_pos]
  rcases Classical.not_and_iff_not_or_not.mp far with far | long
  · exact .inl (Nat.lt_of_not_le far)
  · exact .inr (Nat.lt_of_not_le long)

/-! ### Loading -/

/-- Loading never changes the tree. -/
theorem state_load (directory id : Bytes) (tree : FileTree) :
    ((load directory id).run tree).state = tree := by
  rw [load, Action.state_bind, Action.run_get]
  dsimp only
  split
  · rfl
  · rfl
  · rfl

/-- Loading gives the contents of the file, or nothing where there is none. -/
theorem run_load {stored : Option Bytes} (located : tree.find directory = .ok (dir, some .directory))
    (near : Near directory id) (holds : tree.get? (objectName id :: dir) = stored.map .file) :
    (load directory id).run tree = ⟨.ok stored, tree, []⟩ := by
  have target := find_objectPath located near
  rw [holds] at target
  cases stored with
  | none =>
      have reads : tree.read (objectPath directory id) = .error .notFound := by
        simp only [FileTree.read, target, bind, Except.bind, Option.map_none, throw, throwThe,
          MonadExceptOf.throw]
      simp [load, Action.run_bind, reads]
  | some data =>
      have reads : tree.read (objectPath directory id) = .ok data := read_eq_ok.mpr ⟨_, target⟩
      simp [load, Action.run_bind, reads]

/-! ### Storing -/

/-- The contents go to a temporary file first. -/
theorem run_store_eq_persist (located : tree.find directory = .ok (dir, some .directory))
    (id data : Bytes) :
    ∃ staged, Updated tree staged (tree.freshName :: dir) (some (.file data)) ∧
      (store directory id data).run tree
        = (persist (tree.freshName :: dir) (objectPath directory id) data.length).run staged := by
  obtain ⟨empty, creates, adds⟩ := createTemporary_of_directory located
  obtain ⟨-, -, -, there⟩ := find_eq_directory.mp located
  have fresh := get?_freshName tree dir
  have parent : empty.get? dir = some .directory :=
    adds.directoriesStay (by simp [fresh]) dir there
  have clear : empty.get? (tree.freshName :: dir) ≠ some .directory := by simp [adds.here]
  obtain ⟨staged, writes, fills⟩ := makeFile_of_directory parent clear data
  refine ⟨staged, adds.again fills, ?_⟩
  simp [store, Action.run_bind, creates, writes]

section Persisting

variable {staged : FileTree}

/-- In the tree with the temporary file, everything else is as it was. -/
theorem located_of_staged (id : Bytes) (located : tree.find directory = .ok (dir, some .directory))
    (stages : Updated tree staged (tree.freshName :: dir) (some (.file data))) :
    staged.find directory = .ok (dir, some .directory) ∧
      staged.get? (objectName id :: dir) = tree.get? (objectName id :: dir) := by
  have fresh := get?_freshName tree dir
  refine ⟨find_mono (stages.directoriesStay (by simp [fresh])) stages.current located, ?_⟩
  exact stages.elsewhere (objectName_cons_ne id tree dir)

/-- An object that is stored is in its file, and nothing else has changed. -/
theorem run_store (located : tree.find directory = .ok (dir, some .directory))
    (near : Near directory id) (clear : tree.get? (objectName id :: dir) ≠ some .directory)
    (data : Bytes) :
    ∃ after e, (store directory id data).run tree = ⟨.ok (), after, e⟩ ∧
      Updated tree after (objectName id :: dir) (some (.file data)) := by
  obtain ⟨staged, stages, runs⟩ := run_store_eq_persist located id data
  obtain ⟨locatedStaged, same⟩ := located_of_staged id located stages
  obtain ⟨-, -, -, parent⟩ := find_eq_directory.mp locatedStaged
  have differ := objectName_cons_ne id tree dir
  obtain ⟨moved, after, renames, puts, drops⟩ := rename_of_clear stages.here
    (find_objectPath locatedStaged near) differ parent (same ▸ clear)
  refine ⟨after, [.objectStored (objectPath directory id) data.length], ?_, ?_, ?_⟩
  · rw [runs]
    simp [persist, Action.run_bind, Action.run_map, renames]
  · rw [drops.current, puts.current, stages.current]
  · intro other
    rw [drops.get?, puts.get?, stages.get?]
    by_cases temporary : other = tree.freshName :: dir
    · rw [if_pos temporary, temporary, if_neg differ.symm, get?_freshName]
    · rw [if_neg temporary, if_neg temporary]

/-- An object that cannot be stored leaves no temporary file behind. -/
theorem run_store_of_blocked (located : tree.find directory = .ok (dir, some .directory))
    (blocked : Near directory id → tree.get? (objectName id :: dir) = some .directory)
    (data : Bytes) :
    ∃ after e, (store directory id data).run tree = ⟨.error (.trustedApp .generic), after, e⟩ ∧
      Unchanged tree after := by
  obtain ⟨staged, stages, runs⟩ := run_store_eq_persist located id data
  obtain ⟨locatedStaged, same⟩ := located_of_staged id located stages
  obtain ⟨error, refuses⟩ :
      ∃ error, staged.rename (tree.freshName :: dir) (objectPath directory id) = .error error := by
    by_cases near : Near directory id
    · exact ⟨_, rename_of_taken stages.here (find_objectPath locatedStaged near)
        (same.trans (blocked near))⟩
    · exact ⟨_, rename_of_lost stages.here (find_objectPath_of_far locatedStaged near)⟩
  obtain ⟨after, unlinks, drops⟩ := unlink_of_file stages.here
  refine ⟨after, [.storageFailed .persist error], ?_, ?_⟩
  · rw [runs]
    simp [persist, refused, Action.run_bind, Action.run_map, refuses, unlinks, Except.toOption]
  · exact (stages.again drops).unchanged_of_undone (get?_freshName tree dir)

end Persisting

/-! ### Removing -/

/-- Removing takes the file away, and tells whether there was one. -/
theorem run_remove {stored : Option Bytes}
    (located : tree.find directory = .ok (dir, some .directory)) (near : Near directory id)
    (holds : tree.get? (objectName id :: dir) = stored.map .file) :
    ∃ after, (remove directory id).run tree = ⟨.ok stored.isSome, after, []⟩ ∧
      Updated tree after (objectName id :: dir) none := by
  have target := find_objectPath located near
  cases stored with
  | none =>
      have refuses : tree.remove (objectPath directory id) = .error .notFound := by
        simp [FileTree.remove, target, bind, Except.bind, unlink, holds]
      refine ⟨tree, by simp [remove, Action.run_bind, refuses], rfl, ?_⟩
      intro other
      split
      · next same => simp [same, holds]
      · rfl
  | some data =>
      obtain ⟨after, unlinks, drops⟩ := unlink_of_file holds
      have removes : tree.remove (objectPath directory id) = .ok after := by
        simp only [FileTree.remove, target, bind, Except.bind, unlinks]
      exact ⟨after, by simp [remove, Action.run_bind, Action.run_map, removes], drops⟩

/-- What has been removed is the file of the object, and otherwise nothing has changed. -/
theorem effect_remove (directory id : Bytes) (tree : FileTree) :
    let outcome := (remove directory id).run tree
    (outcome.value = .ok true ∧ ∃ place data,
      tree.find (objectPath directory id) = .ok (place, some (.file data)) ∧
        Updated tree outcome.state place none) ∨
    (outcome.value ≠ .ok true ∧ outcome.state = tree) := by
  cases removes : tree.remove (objectPath directory id) with
  | error error =>
      right
      cases error <;> simp [remove, refused, Action.run_bind, Action.run_map, removes]
  | ok after =>
      left
      cases target : tree.find (objectPath directory id) with
      | error error => simp [FileTree.remove, target, bind, Except.bind] at removes
      | ok found =>
          obtain ⟨place, entry⟩ := found
          have unlinks : tree.unlink place = .ok after := by
            simpa only [FileTree.remove, target, bind, Except.bind] using removes
          obtain ⟨⟨data, file⟩, drops⟩ := file_of_unlink unlinks
          obtain rfl : some (.file data) = entry := by rw [← file, get?_of_find target]
          have runs : (remove directory id).run tree = ⟨.ok true, after, []⟩ := by
            simp [remove, Action.run_bind, Action.run_map, removes]
          rw [runs]
          exact ⟨rfl, place, data, rfl, drops⟩

end DirectoryStore

end ObjectVault
