import ObjectVault.Backend.Directory
import ObjectVault.Proofs.Discretion.Client
import ObjectVault.Proofs.FileTree.Effects

/-!
# Stores that are discreet

File trees are alike where they have the same directories and files of the same lengths. No operation
on paths tells alike trees apart: all of them come to the same result, an error for the same reason or
success with alike trees (`sameResult_find` and the lemmas after it). So the backend over a store is
discreet: `DirectoryStore.discreet`.
-/

namespace ObjectVault

/-- Entries that differ in the contents of a file at most. -/
inductive FileEntry.Alike : FileEntry → FileEntry → Prop where
  | directory : Alike .directory .directory
  | file {first second : Bytes} (alike : first.Alike second) : Alike (.file first) (.file second)

namespace FileTree

/-- Trees that differ in the contents of files at most. -/
structure Alike (first second : FileTree) : Prop where
  current : first.current = second.current
  entries : ∀ place, Option.Rel FileEntry.Alike (first.get? place) (second.get? place)

namespace Alike

variable {first second before before' after after' : FileTree} {place : Place}

protected theorem refl (tree : FileTree) : tree.Alike tree := by
  refine ⟨rfl, fun place => ?_⟩
  rcases tree.get? place with _ | _ | data
  · exact .none
  · exact .some .directory
  · exact .some (.file (.refl data))

/-- What alike trees have at a place. -/
theorem at_place (alike : first.Alike second) (place : Place) :
    (first.get? place = none ∧ second.get? place = none) ∨
    (first.get? place = some .directory ∧ second.get? place = some .directory) ∨
    ∃ data data', first.get? place = some (.file data) ∧ second.get? place = some (.file data') ∧
      data.Alike data' := by
  have entries := alike.entries place
  cases h : first.get? place <;> cases h' : second.get? place <;> rw [h, h'] at entries
  · exact .inl ⟨rfl, rfl⟩
  · cases entries
  · cases entries
  · cases entries with
    | some same =>
        cases same with
        | directory => exact .inr (.inl ⟨rfl, rfl⟩)
        | file contents => exact .inr (.inr ⟨_, _, rfl, rfl, contents⟩)

/-- Alike trees have the same directories. -/
theorem directory_iff (alike : first.Alike second) (place : Place) :
    first.get? place = some .directory ↔ second.get? place = some .directory := by
  rcases alike.at_place place with ⟨h, h'⟩ | ⟨h, h'⟩ | ⟨_, _, h, h', -⟩ <;> simp [h, h']

theorem absent_iff (alike : first.Alike second) (place : Place) :
    first.get? place = none ↔ second.get? place = none := by
  rcases alike.at_place place with ⟨h, h'⟩ | ⟨h, h'⟩ | ⟨_, _, h, h', -⟩ <;> simp [h, h']

/-- Alike trees stay so when alike entries are put at one place. -/
theorem updated {entry entry' : Option FileEntry} (alike : before.Alike before')
    (updates : Updated before after place entry) (updates' : Updated before' after' place entry')
    (entries : Option.Rel FileEntry.Alike entry entry') : after.Alike after' := by
  refine ⟨?_, fun other => ?_⟩
  · rw [updates.current, updates'.current, alike.current]
  · rw [updates.get?, updates'.get?]
    split
    · exact entries
    · exact alike.entries other

/-! ### Walks and names -/

/-- One name leads to the same place, or fails for the same reason. -/
theorem step_eq (alike : first.Alike second) (place : Place) (name : Name) :
    first.step place name = second.step place name := by
  rcases alike.at_place place with ⟨h, h'⟩ | ⟨h, h'⟩ | ⟨_, _, h, h', -⟩ <;> simp only [step, h, h']

/-- A path leads to the same place in alike trees, since only directories matter on the way. -/
theorem walk_eq (alike : first.Alike second) (names : List Name) (place : Place) :
    first.walk names place = second.walk names place := by
  have steps : first.step = second.step := funext fun inner => funext (alike.step_eq inner)
  rw [walk, walk, steps]

theorem start_eq (alike : first.Alike second) (path : Path) : first.start path = second.start path :=
  start_of_current alike.current path

/-- Whatever one tree has a name for, the other has too. -/
theorem length_freshName_le (alike : first.Alike second) :
    first.freshName.length ≤ second.freshName.length := by
  simp only [freshName, List.length_replicate, Nat.add_le_add_iff_right]
  refine foldl_max_le _ (Nat.zero_le _) ?_
  intro binding member
  cases place : binding.1 with
  | nil => exact Nat.zero_le _
  | cons name dir =>
      have bound : first.get? (name :: dir) ≠ none := by
        have listed := Table.lookup_isSome.mpr (List.mem_map.mpr ⟨binding, member, place⟩)
        simpa [get?, entryIn, Option.isSome_iff_ne_none] using listed
      have there : second.get? (name :: dir) ≠ none := by
        rcases alike.at_place (name :: dir) with ⟨h, -⟩ | ⟨-, h⟩ | ⟨_, _, -, h, -⟩
        · exact absurd h bound
        · simp [h]
        · simp [h]
      have listed : (second.entries.lookup (name :: dir)).isSome := by
        simpa [get?, entryIn, Option.isSome_iff_ne_none] using there
      obtain ⟨other, among, same⟩ := List.mem_map.mp (Table.lookup_isSome.mp listed)
      have least := (le_foldl_max (fun binding : Place × FileEntry => (binding.1.headD []).length)
        second.entries.bindings 0).2 other among
      rwa [same] at least

protected theorem symm (alike : first.Alike second) : second.Alike first := by
  refine ⟨alike.current.symm, fun place => ?_⟩
  rcases alike.at_place place with ⟨h, h'⟩ | ⟨h, h'⟩ | ⟨_, _, h, h', same⟩ <;> rw [h, h']
  · exact .none
  · exact .some .directory
  · exact .some (.file same.symm)

/-- The names of temporary files do not tell alike trees apart. -/
theorem freshName_eq (alike : first.Alike second) : first.freshName = second.freshName := by
  have lengths := Nat.le_antisymm alike.length_freshName_le alike.symm.length_freshName_le
  simp only [freshName, List.length_replicate] at lengths ⊢
  rw [lengths]

end Alike

/-! ### Operations on places -/

section Operations

variable {first second : FileTree} {place : Place}

/-- Making a file succeeds on both sides or fails for the same reason, whatever bytes go into it. -/
theorem sameResult_makeFile (alike : first.Alike second) (place : Place) {data data' : Bytes}
    (contents : data.Alike data') :
    SameResult Alike (first.makeFile place data) (second.makeFile place data') := by
  cases place with
  | nil => exact .error _
  | cons name dir =>
      by_cases parent : first.get? dir = some .directory
      · have parent' := (alike.directory_iff dir).mp parent
        by_cases taken : first.get? (name :: dir) = some .directory
        · have taken' := (alike.directory_iff _).mp taken
          rw [makeFile_of_taken taken, makeFile_of_taken taken']
          exact .error _
        · have clear' : second.get? (name :: dir) ≠ some .directory :=
            fun there => taken ((alike.directory_iff _).mpr there)
          obtain ⟨after, makes, puts⟩ := makeFile_of_directory parent taken data
          obtain ⟨after', makes', puts'⟩ := makeFile_of_directory parent' clear' data'
          rw [makes, makes']
          exact .ok (alike.updated puts puts' (.some (.file contents)))
      · have orphan' : second.get? dir ≠ some .directory :=
          fun there => parent ((alike.directory_iff dir).mpr there)
        simp only [makeFile, dif_neg parent, dif_neg orphan', alike.absent_iff dir]
        exact .error _

theorem sameResult_makeDirectory (alike : first.Alike second) (place : Place) :
    SameResult Alike (first.makeDirectory place) (second.makeDirectory place) := by
  cases place with
  | nil => exact .ok alike
  | cons name dir =>
      by_cases parent : first.get? dir = some .directory
      · have parent' := (alike.directory_iff dir).mp parent
        rcases alike.at_place (name :: dir)
          with ⟨absent, absent'⟩ | ⟨there, there'⟩ | ⟨_, _, file, file', -⟩
        · obtain ⟨after, makes, puts⟩ := makeDirectory_of_absent parent absent
          obtain ⟨after', makes', puts'⟩ := makeDirectory_of_absent parent' absent'
          rw [makes, makes']
          exact .ok (alike.updated puts puts' (.some .directory))
        · rw [makeDirectory_of_directory there, makeDirectory_of_directory there']
          exact .ok alike
        · rw [makeDirectory_of_file file, makeDirectory_of_file file']
          exact .error _
      · have orphan' : second.get? dir ≠ some .directory :=
          fun there => parent ((alike.directory_iff dir).mpr there)
        simp only [makeDirectory, dif_neg parent, dif_neg orphan', alike.absent_iff dir]
        exact .error _

theorem sameResult_unlink (alike : first.Alike second) (place : Place) :
    SameResult Alike (first.unlink place) (second.unlink place) := by
  rcases alike.at_place place with ⟨h, h'⟩ | ⟨h, h'⟩ | ⟨_, _, h, h', -⟩
  · rw [unlink, unlink, dif_neg (by simp [h]), dif_neg (by simp [h']), if_pos h, if_pos h']
    exact .error _
  · rw [unlink, unlink, dif_pos h, dif_pos h']
    exact .error _
  · obtain ⟨after, unlinks, drops⟩ := unlink_of_file h
    obtain ⟨after', unlinks', drops'⟩ := unlink_of_file h'
    rw [unlinks, unlinks']
    exact .ok (alike.updated drops drops' .none)

/-! ### Operations on paths -/

/-- A path finds the same place, with alike entries there. -/
theorem sameResult_find (alike : first.Alike second) (path : Bytes) :
    SameResult (fun found found' => found.1 = found'.1 ∧ Option.Rel FileEntry.Alike found.2 found'.2)
      (first.find path) (second.find path) := by
  cases made : Path.ofBytes path with
  | error error =>
      rw [find_of_bad_path made, find_of_bad_path made]
      exact .error error
  | ok parsed =>
      cases walks : first.walk parsed.names (first.start parsed) with
      | error error =>
          have walks' := walks
          rw [alike.walk_eq, alike.start_eq] at walks'
          rw [find_of_no_walk made walks, find_of_no_walk made walks']
          exact .error error
      | ok place =>
          have walks' := walks
          rw [alike.walk_eq, alike.start_eq] at walks'
          rw [find_of_walk made walks, find_of_walk made walks']
          rcases alike.at_place place with ⟨h, h'⟩ | ⟨h, h'⟩ | ⟨_, _, h, h', same⟩ <;> rw [h, h']
          · exact .ok ⟨rfl, .none⟩
          · exact .ok ⟨rfl, .some .directory⟩
          · dsimp only
            split
            · exact .error _
            · exact .ok ⟨rfl, .some (.file same)⟩

/-- Reading succeeds on both sides, with contents of equal length, or fails for the same reason. -/
theorem sameResult_read (alike : first.Alike second) (path : Bytes) :
    SameResult Bytes.Alike (first.read path) (second.read path) := by
  refine (sameResult_find alike path).bind ?_
  rintro ⟨place, entry⟩ ⟨_, entry'⟩ ⟨-, entries⟩
  cases entries with
  | none => exact .error _
  | some same =>
      cases same with
      | directory => exact .error _
      | file contents => exact .ok contents

theorem sameResult_remove (alike : first.Alike second) (path : Bytes) :
    SameResult Alike (first.remove path) (second.remove path) := by
  refine (sameResult_find alike path).bind ?_
  rintro ⟨place, entry⟩ ⟨_, entry'⟩ ⟨rfl, -⟩
  exact sameResult_unlink alike place

theorem alike_createAlong (alike : first.Alike second) (names : List Name) (place : Place) :
    let made := createAlong first place names
    let made' := createAlong second place names
    made.1.Alike made'.1 ∧ made.2 = made'.2 := by
  induction names generalizing first second place with
  | nil => exact ⟨alike, rfl⟩
  | cons name rest ih =>
      simp only [createAlong, alike.step_eq]
      cases second.step place name with
      | error error => exact ⟨alike, rfl⟩
      | ok inner =>
          obtain ⟨cause, h, h'⟩ | ⟨made, made', h, h', onward⟩ :=
            (sameResult_makeDirectory alike inner).outcomes
          · simp only [h, h', and_true]
            exact alike
          · simp only [h, h']
            exact ih onward inner

/-- The directories of a path are made on both sides alike. -/
theorem alike_createDirectories (alike : first.Alike second) (path : Bytes) :
    let made := first.createDirectories path
    let made' := second.createDirectories path
    made.1.Alike made'.1 ∧ made.2 = made'.2 := by
  rw [createDirectories, createDirectories]
  cases Path.ofBytes path with
  | error error => exact ⟨alike, rfl⟩
  | ok parsed =>
      dsimp only
      rw [alike.start_eq]
      exact alike_createAlong alike parsed.names _

/-- A temporary file gets the same name on both sides, since names alone decide what is fresh. -/
theorem sameResult_createTemporary (alike : first.Alike second) (directory : Bytes) :
    SameResult (fun made made' => Alike made.1 made'.1 ∧ made.2 = made'.2)
      (first.createTemporary directory) (second.createTemporary directory) := by
  refine (sameResult_find alike directory).bind ?_
  rintro ⟨dir, entry⟩ ⟨_, entry'⟩ ⟨rfl, entries⟩
  cases entries with
  | none => exact .error _
  | some same =>
      cases same with
      | file => exact .error _
      | directory =>
          dsimp only
          rw [alike.freshName_eq]
          refine (sameResult_makeFile alike _ (.refl [])).bind ?_
          intro made made' same
          exact .ok ⟨same, rfl⟩

/-- A file is moved on both sides or on neither. -/
theorem sameResult_rename (alike : first.Alike second) (source : Place) (path : Bytes) :
    SameResult Alike (first.rename source path) (second.rename source path) := by
  rw [rename, rename]
  rcases alike.at_place source with ⟨h, h'⟩ | ⟨h, h'⟩ | ⟨data, data', h, h', contents⟩ <;> rw [h, h']
  · exact .error _
  · exact .error _
  · refine (sameResult_find alike path).bind ?_
    rintro ⟨place, entry⟩ ⟨_, entry'⟩ ⟨rfl, -⟩
    refine (sameResult_makeFile alike place contents).bind ?_
    intro moved moved' same
    dsimp only
    split
    · exact .ok same
    · exact sameResult_unlink same source

end Operations

end FileTree

/-! ### The backend -/

namespace DirectoryStore

open FileTree

theorem agree_refused {α : Type} {values : Except Failure α → Except Failure α → Prop}
    (action : StorageAction) (cause : FileError)
    (same : values (.error (.trustedApp .generic)) (.error (.trustedApp .generic))) :
    Action.Agree FileTree.Alike values (refused action cause) (refused action cause) :=
  (Action.Agree.report _).andThen (.pure same)

/-- Loading reports the same failures, and contents of equal length. -/
theorem agree_load (directory id : Bytes) :
    Action.Agree FileTree.Alike (SameResult (Option.Rel Bytes.Alike)) (load directory id)
      (load directory id) := by
  refine Action.Agree.get.bind ?_
  intro tree tree' alike
  obtain ⟨cause, h, h'⟩ | ⟨data, data', h, h', contents⟩ :=
    (sameResult_read alike (objectPath directory id)).outcomes
  · rw [h, h']
    cases cause with
    | notFound => exact .pure (.ok .none)
    | occupied | notDirectory | isDirectory | nameTooLong | badPath | notText =>
        exact agree_refused .read _ (.error _)
  · rw [h, h']
    exact .pure (.ok (.some contents))

theorem agree_persist (temporary : Place) (path : Bytes) (length : Nat) :
    Action.Agree FileTree.Alike Eq (persist temporary path length)
      (persist temporary path length) := by
  refine Action.Agree.get.bind ?_
  intro tree tree' alike
  obtain ⟨cause, h, h'⟩ | ⟨renamed, renamed', h, h', same⟩ :=
    (sameResult_rename alike temporary path).outcomes
  · rw [h, h']
    have cleared := (sameResult_unlink alike temporary).getD_toOption alike
    exact (Action.Agree.set cleared).andThen (agree_refused .persist cause rfl)
  · rw [h, h']
    refine (Action.Agree.set same).andThen ?_
    exact (Action.Agree.report _).andThen (.pure rfl)

/-- Storing tells of the length of what is stored, and of nothing else. -/
theorem agree_store (directory id : Bytes) {data data' : Bytes} (contents : data.Alike data') :
    Action.Agree FileTree.Alike Eq (store directory id data) (store directory id data') := by
  refine Action.Agree.get.bind ?_
  intro tree tree' alike
  obtain ⟨cause, h, h'⟩ | ⟨⟨staged, temporary⟩, ⟨staged', _⟩, h, h', same, rfl⟩ :=
    (sameResult_createTemporary alike directory).outcomes
  · rw [h, h']
    exact agree_refused .create cause rfl
  · rw [h, h']
    obtain ⟨cause, h, h'⟩ | ⟨filled, filled', h, h', same⟩ :=
      (sameResult_makeFile same temporary contents).outcomes
    · simp only [h, h']
      exact agree_refused .write cause rfl
    · simp only [h, h']
      rw [show data.length = data'.length from contents]
      exact (Action.Agree.set same).andThen (agree_persist temporary _ _)

/-- Removing tells whether there was a file, and not what was in it. -/
theorem agree_remove (directory id : Bytes) :
    Action.Agree FileTree.Alike Eq (remove directory id) (remove directory id) := by
  refine Action.Agree.get.bind ?_
  intro tree tree' alike
  obtain ⟨cause, h, h'⟩ | ⟨removed, removed', h, h', same⟩ :=
    (sameResult_remove alike (objectPath directory id)).outcomes
  · rw [h, h']
    cases cause with
    | notFound => exact .pure rfl
    | occupied | notDirectory | isDirectory | nameTooLong | badPath | notText =>
        exact agree_refused .remove _ rfl
  · rw [h, h']
    exact (Action.Agree.set same).andThen (.pure rfl)

/-- The files of a directory are a discreet table of objects. -/
theorem discreet_objects (directory : Bytes) :
    (objects directory).Discreet FileTree.Alike where
  load := agree_load directory
  store id _ _ contents := agree_store directory id contents
  remove := agree_remove directory

/-- Connecting to a store makes the same directories in alike trees. -/
theorem agree_connect (store : DirectoryStore) :
    Action.Agree FileTree.Alike Eq store.backend.connect store.backend.connect := by
  refine Action.Agree.get.bind ?_
  intro tree tree' alike
  obtain ⟨same, results⟩ := alike_createDirectories alike store.serviceDirectory
  rcases h : tree.createDirectories store.serviceDirectory with ⟨made, result⟩
  rcases h' : tree'.createDirectories store.serviceDirectory with ⟨made', result'⟩
  rw [h, h'] at same results
  dsimp only at same results ⊢
  subst results
  refine (Action.Agree.set same).andThen ?_
  cases result with
  | ok => exact .pure rfl
  | error cause => exact (Action.Agree.report _).andThen (.pure rfl)

/-- What a store answers and reports depends on its files by their lengths alone. -/
theorem discreet (store : DirectoryStore) : store.backend.Discreet FileTree.Alike where
  connect := agree_connect store
  openSession directory service login := by
    simp only [backend]
    split
    · exact .pure rfl
    · exact .pure rfl
  invoke directory number _ _ alike :=
    Service.agree_dispatch (discreet_objects directory) alike number
  closeSession _ _ := .pure rfl
  finalize _ := .pure rfl

end DirectoryStore

end ObjectVault
