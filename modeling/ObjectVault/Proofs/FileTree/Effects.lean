import ObjectVault.Proofs.FileTree.Walks

/-!
# Effects of file operations

What the operations on a file tree leave behind, as readings of the tree before and after.

* `Updated`: one place has a new entry, and all others keep theirs. Making and removing files comes to
  this, or to nothing.
* `Unchanged`: all places keep their entries.
* `Extended`: nothing is lost or replaced, and what is new are directories. Making directories comes to
  this even where it fails half way (`extended_createDirectories`).
-/

namespace ObjectVault

namespace FileTree

/-- The second tree reads as the first. -/
structure Unchanged (before after : FileTree) : Prop where
  current : after.current = before.current
  get? : ∀ place, after.get? place = before.get? place

/-- The second tree reads as the first, with `entry` at `place`. -/
structure Updated (before after : FileTree) (place : Place) (entry : Option FileEntry) : Prop where
  current : after.current = before.current
  get? : ∀ other, after.get? other = if other = place then entry else before.get? other

/-- The second tree reads as the first, but for directories where there was nothing; these are at
places that `reached` admits. -/
structure Extended (before after : FileTree) (reached : Place → Prop) : Prop where
  current : after.current = before.current
  get? : ∀ place, after.get? place = before.get? place ∨
    before.get? place = none ∧ after.get? place = some .directory ∧ reached place

variable {tree before middle after : FileTree} {place inner dir : Place} {name : Name}
  {names walked : List Name} {data : Bytes} {entry : Option FileEntry} {reached : Place → Prop}
  {path directory : Bytes}

/-! ### One place -/

theorem Unchanged.refl (tree : FileTree) : Unchanged tree tree := ⟨rfl, fun _ => rfl⟩

namespace Updated

/-- After an update, the entry stands in its place. -/
theorem here (updated : Updated before after place entry) : after.get? place = entry := by
  rw [updated.get?, if_pos rfl]

/-- An update touches no other place. -/
theorem elsewhere (updated : Updated before after place entry) {other : Place}
    (differ : other ≠ place) : after.get? other = before.get? other := by
  rw [updated.get?, if_neg differ]

/-- Of two entries at one place, the second stays. -/
theorem again {first second : Option FileEntry} (one : Updated before middle place first)
    (two : Updated middle after place second) : Updated before after place second := by
  refine ⟨two.current.trans one.current, ?_⟩
  intro other
  rw [two.get?]
  split
  · rfl
  · next differ => exact one.elsewhere differ

/-- An entry that was put where there was none, and taken away again, leaves nothing changed. -/
theorem unchanged_of_undone (absent : before.get? place = none)
    (undone : Updated before after place none) : Unchanged before after := by
  refine ⟨undone.current, ?_⟩
  intro other
  rw [undone.get?]
  split
  · next same => rw [same, absent]
  · rfl

/-- Where no directory is replaced by anything else, the directories stay. -/
theorem directoriesStay (updated : Updated before after place entry)
    (kept : before.get? place = some .directory → entry = some .directory) :
    DirectoriesStay before after := by
  intro other old
  by_cases same : other = place
  · subst same
    rw [updated.here, kept old]
  · rw [updated.elsewhere same, old]

end Updated

theorem updated_put {parent : tree.get? dir = some .directory} {new : FileEntry}
    {kept : tree.get? (name :: dir) = some .directory → new = .directory} :
    Updated tree (tree.put name dir new parent kept) (name :: dir) (some new) :=
  ⟨rfl, get?_put⟩

theorem updated_drop {leaf : tree.get? place ≠ some .directory} :
    Updated tree (tree.drop place leaf) place none :=
  ⟨rfl, get?_drop⟩

/-- A file can be made in any directory, except in the place of a directory. -/
theorem makeFile_of_directory (parent : tree.get? dir = some .directory)
    (clear : tree.get? (name :: dir) ≠ some .directory) (data : Bytes) :
    ∃ after, tree.makeFile (name :: dir) data = .ok after ∧
      Updated tree after (name :: dir) (some (.file data)) := by
  rw [makeFile, dif_pos parent, dif_neg clear]
  exact ⟨_, rfl, updated_put⟩

/-- A directory is never replaced by a file. -/
theorem makeFile_of_taken (taken : tree.get? place = some .directory) (data : Bytes) :
    tree.makeFile place data = .error .isDirectory := by
  cases place with
  | nil => rfl
  | cons name dir =>
      have parent : tree.get? dir = some .directory := get?_parent (by rw [taken]; rfl)
      rw [makeFile, dif_pos parent, dif_pos taken]

theorem unlink_of_file (found : tree.get? place = some (.file data)) :
    ∃ after, tree.unlink place = .ok after ∧ Updated tree after place none := by
  have leaf : tree.get? place ≠ some .directory := by simp [found]
  rw [unlink, dif_neg leaf, if_neg (by simp [found])]
  exact ⟨_, rfl, updated_drop⟩

/-- What can be taken away is a file. -/
theorem file_of_unlink (unlinks : tree.unlink place = .ok after) :
    (∃ data, tree.get? place = some (.file data)) ∧ Updated tree after place none := by
  rw [unlink] at unlinks
  split at unlinks
  · cases unlinks
  split at unlinks
  · cases unlinks
  · next leaf there =>
      cases unlinks
      refine ⟨?_, updated_drop⟩
      rcases found : tree.get? place with _ | _ | data
      · exact absurd found there
      · exact absurd found leaf
      · exact ⟨data, rfl⟩

/-! ### Directories along a path -/

namespace Extended

theorem refl (tree : FileTree) (reached : Place → Prop) : Extended tree tree reached :=
  ⟨rfl, fun _ => .inl rfl⟩

/-- What only adds directories keeps those that were there. -/
theorem directoriesStay (extended : Extended before after reached) :
    DirectoriesStay before after := by
  intro place old
  rcases extended.get? place with same | ⟨-, new, -⟩
  · rw [same, old]
  · exact new

theorem mono {reached' : Place → Prop} (extended : Extended before after reached)
    (wider : ∀ place, reached place → reached' place) : Extended before after reached' := by
  refine ⟨extended.current, fun place => ?_⟩
  rcases extended.get? place with same | ⟨absent, new, admitted⟩
  · exact .inl same
  · exact .inr ⟨absent, new, wider place admitted⟩

theorem trans (first : Extended before middle reached) (second : Extended middle after reached) :
    Extended before after reached := by
  refine ⟨second.current.trans first.current, fun place => ?_⟩
  rcases first.get? place with same | ⟨absent, new, admitted⟩
  · rw [← same]
    exact second.get? place
  · exact .inr ⟨absent, second.directoriesStay place new, admitted⟩

end Extended

theorem makeDirectory_of_directory (there : tree.get? place = some .directory) :
    tree.makeDirectory place = .ok tree := by
  cases place with
  | nil => rfl
  | cons name dir =>
      have parent : tree.get? dir = some .directory := get?_parent (by rw [there]; rfl)
      rw [makeDirectory, dif_pos parent]
      split
      · next absent => simp [there] at absent
      · rfl
      · next found => simp [there] at found

/-- A directory can be made in another one where nothing stands in its place. -/
theorem makeDirectory_of_absent (parent : tree.get? dir = some .directory)
    (absent : tree.get? (name :: dir) = none) :
    ∃ after, tree.makeDirectory (name :: dir) = .ok after ∧
      Updated tree after (name :: dir) (some .directory) := by
  rw [makeDirectory, dif_pos parent]
  split
  · exact ⟨_, rfl, updated_put⟩
  · next there => simp [absent] at there
  · next found => simp [absent] at found

theorem makeDirectory_of_file (found : tree.get? place = some (.file data)) :
    tree.makeDirectory place = .error .occupied := by
  cases place with
  | nil => cases found
  | cons name dir =>
      have parent : tree.get? dir = some .directory := get?_parent (by rw [found]; rfl)
      rw [makeDirectory, dif_pos parent]
      split
      · next absent => simp [found] at absent
      · next there => simp [found] at there
      · rfl

/-- Making a directory adds that directory at most, and it is there afterwards. -/
theorem extended_makeDirectory (makes : tree.makeDirectory place = .ok after) :
    Extended tree after (· = place) ∧ after.get? place = some .directory := by
  cases place with
  | nil =>
      cases makes
      exact ⟨.refl tree _, get?_root tree⟩
  | cons name dir =>
      by_cases parent : tree.get? dir = some .directory
      · rcases found : tree.get? (name :: dir) with _ | _ | data
        · obtain ⟨made, run, puts⟩ := makeDirectory_of_absent parent found
          rw [run] at makes
          cases makes
          refine ⟨⟨puts.current, fun other => ?_⟩, puts.here⟩
          by_cases same : other = name :: dir
          · subst same
            exact .inr ⟨found, puts.here, rfl⟩
          · exact .inl (puts.elsewhere same)
        · rw [makeDirectory_of_directory found] at makes
          cases makes
          exact ⟨.refl tree _, found⟩
        · rw [makeDirectory, dif_pos parent] at makes
          split at makes <;> simp_all
      · rw [makeDirectory, dif_neg parent] at makes
        cases makes

/-- Whether a place lies on the way that some names lead, the end included. -/
def OnWalk (tree : FileTree) (names : List Name) (start place : Place) : Prop :=
  ∃ walked, walked <+: names ∧ tree.walk walked start = .ok place

/-- Whether a place lies on the way that a path leads, the end included. -/
def OnPath (tree : FileTree) (path : Bytes) (place : Place) : Prop :=
  ∃ parsed, Path.ofBytes path = .ok parsed ∧ tree.OnWalk parsed.names (tree.start parsed) place

/-- Making the directories along some names adds directories on that way, and nothing else, even where
it fails half way. Where it succeeds, the way can be walked to its end. -/
theorem extended_createAlong (tree : FileTree) (names : List Name) (place : Place) :
    let outcome := createAlong tree place names
    Extended tree outcome.1 (outcome.1.OnWalk names place) ∧
      (outcome.2 = .ok () → (names = [] → tree.get? place = some .directory) →
        ∃ inner, outcome.1.walk names place = .ok inner ∧ outcome.1.get? inner = some .directory) := by
  induction names generalizing tree place with
  | nil => exact ⟨.refl tree _, fun _ there => ⟨place, rfl, there rfl⟩⟩
  | cons name rest ih =>
      intro outcome
      cases steps : tree.step place name with
      | error error =>
          have stops : outcome = (tree, .error error) := by simp only [outcome, createAlong, steps]
          rw [stops]
          exact ⟨.refl tree _, fun succeeds => (nomatch succeeds)⟩
      | ok inner =>
          cases makes : tree.makeDirectory inner with
          | error error =>
              have stops : outcome
                  = (tree, .error (if rest = [] then error else .notDirectory)) := by
                simp only [outcome, createAlong, steps, makes]
              rw [stops]
              exact ⟨.refl tree _, fun succeeds => (nomatch succeeds)⟩
          | ok middle =>
              have continues : outcome = createAlong middle inner rest := by
                simp only [outcome, createAlong, steps, makes]
              obtain ⟨adds, there⟩ := extended_makeDirectory makes
              obtain ⟨onward, ends⟩ := ih middle inner
              rw [← continues] at onward ends
              -- the first step can still be taken in the tree at the end
              have stepsAfter : outcome.1.step place name = .ok inner :=
                step_mono onward.directoriesStay (step_mono adds.directoriesStay steps)
              have walksOn {walked : List Name} {last : Place}
                  (walks : outcome.1.walk walked inner = .ok last) :
                  outcome.1.walk (name :: walked) place = .ok last :=
                walk_cons_eq_ok.mpr ⟨inner, stepsAfter, walks⟩
              constructor
              · refine Extended.trans (adds.mono ?_) (onward.mono ?_)
                · rintro _ rfl
                  exact ⟨[name], by simp, walksOn rfl⟩
                · rintro last ⟨walked, part, walks⟩
                  exact ⟨name :: walked, List.cons_prefix_cons.mpr ⟨rfl, part⟩, walksOn walks⟩
              · intro succeeds _
                obtain ⟨last, walks, lastThere⟩ := ends succeeds fun _ => there
                exact ⟨last, walksOn walks, lastThere⟩

/-- Making the directories of a path adds directories on that path, and changes nothing else, even
where it fails half way. -/
theorem extended_createDirectories (tree : FileTree) (path : Bytes) :
    let after := (tree.createDirectories path).1
    Extended tree after (after.OnPath path) := by
  rw [createDirectories]
  cases made : Path.ofBytes path with
  | error error => exact .refl tree _
  | ok parsed =>
      intro after
      have adds := (extended_createAlong tree parsed.names (tree.start parsed)).1
      refine adds.mono fun place onWay => ⟨parsed, made, ?_⟩
      rw [start_of_current adds.current]
      exact onWay

/-- A path whose directories have been made leads to a directory, if it has a name in it. -/
theorem find_of_createDirectories (named : Path.namesOf path ≠ [])
    (succeeds : (tree.createDirectories path).2 = .ok ()) :
    ∃ dir, (tree.createDirectories path).1.find path = .ok (dir, some .directory) := by
  have current := (extended_createDirectories tree path).current
  rw [createDirectories] at current succeeds ⊢
  cases made : Path.ofBytes path with
  | error error => simp [made] at succeeds
  | ok parsed =>
      simp only [made] at current succeeds ⊢
      have some_names : parsed.names ≠ [] := by
        obtain ⟨-, -, -, rfl⟩ := Path.ofBytes_eq_ok.mp made
        exact named
      obtain ⟨dir, walks, there⟩ := (extended_createAlong tree parsed.names (tree.start parsed)).2
        succeeds fun none => absurd none some_names
      refine ⟨dir, find_eq_directory.mpr ⟨parsed, made, ?_, there⟩⟩
      rw [start_of_current current]
      exact walks

/-- Directories that are there stay as they are. -/
theorem createAlong_of_walk (walks : tree.walk names place = .ok inner)
    (there : tree.get? inner = some .directory) (rest : List Name) :
    createAlong tree place (names ++ rest) = createAlong tree inner rest := by
  induction names generalizing place with
  | nil =>
      cases walks
      rfl
  | cons name others ih =>
      obtain ⟨next, steps, onward⟩ := walk_cons_eq_ok.mp walks
      have nextThere : tree.get? next = some .directory := by
        cases others with
        | nil =>
            cases onward
            exact there
        | cons other later =>
            obtain ⟨_, stepsOn, -⟩ := walk_cons_eq_ok.mp onward
            exact directory_of_step stepsOn
      simp only [List.cons_append, createAlong, steps, makeDirectory_of_directory nextThere]
      exact ih onward

/-- Nothing has to be made for a directory that is there. -/
theorem createDirectories_of_find {path : Bytes} (located : tree.find path = .ok (dir, some .directory)) :
    tree.createDirectories path = (tree, .ok ()) := by
  obtain ⟨parsed, made, walks, there⟩ := find_eq_directory.mp located
  have onward := createAlong_of_walk walks there []
  rw [List.append_nil] at onward
  rw [createDirectories, made]
  exact onward

/-- In a directory that is there, only the last directory of a path has to be made. -/
theorem createDirectories_child (located : tree.find directory = .ok (dir, some .directory))
    (plain : Path.Plain name) (near : (Path.child directory name).length ≤ maxPathLength)
    (short : name.length ≤ maxNameLength)
    (clear : ∀ data, tree.get? (name :: dir) ≠ some (.file data)) :
    ∃ after, tree.createDirectories (Path.child directory name) = (after, .ok ()) ∧
      Updated tree after (name :: dir) (some .directory) := by
  obtain ⟨parsed, made, walks, there⟩ := find_eq_directory.mp located
  have child_made := Path.ofBytes_child made plain
  rw [if_neg (Nat.not_lt_of_le near)] at child_made
  have steps := step_plain there plain
  rw [if_neg (Nat.not_lt_of_le short)] at steps
  have last : tree.createDirectories (Path.child directory name) = tree.createAlong dir [name] := by
    simp only [createDirectories, child_made]
    exact createAlong_of_walk walks there [name]
  rw [last]
  rcases found : tree.get? (name :: dir) with _ | _ | data
  · obtain ⟨after, makes, puts⟩ := makeDirectory_of_absent there found
    exact ⟨after, by simp only [createAlong, steps, makes], puts⟩
  · refine ⟨tree, by simp only [createAlong, steps, makeDirectory_of_directory found], rfl, ?_⟩
    intro other
    split
    · next same => rw [same, found]
    · rfl
  · exact absurd found (clear data)

/-! ### Files under new names -/

theorem le_foldl_max {α : Type} (size : α → Nat) (items : List α) (least : Nat) :
    let greatest := items.foldl (fun best item => max best (size item)) least
    least ≤ greatest ∧ ∀ item ∈ items, size item ≤ greatest := by
  induction items generalizing least with
  | nil => exact ⟨Nat.le_refl _, fun item member => (nomatch member)⟩
  | cons first rest ih =>
      obtain ⟨above, later⟩ := ih (max least (size first))
      refine ⟨Nat.le_trans (Nat.le_max_left _ _) above, ?_⟩
      intro item member
      rcases List.mem_cons.mp member with rfl | member
      · exact Nat.le_trans (Nat.le_max_right _ _) above
      · exact later item member

theorem foldl_max_le {α : Type} {size : α → Nat} {bound : Nat} (items : List α) {least : Nat}
    (starts : least ≤ bound) (below : ∀ item ∈ items, size item ≤ bound) :
    items.foldl (fun best item => max best (size item)) least ≤ bound := by
  induction items generalizing least with
  | nil => exact starts
  | cons first rest ih =>
      refine ih (Nat.max_le.mpr ⟨starts, below first List.mem_cons_self⟩) ?_
      exact fun item member => below item (List.mem_cons_of_mem first member)

/-- Nothing has a new name, in whatever directory. -/
theorem get?_freshName (tree : FileTree) (dir : Place) : tree.get? (tree.freshName :: dir) = none := by
  cases found : tree.get? (tree.freshName :: dir) with
  | none => rfl
  | some entry =>
      have bound : (tree.entries.lookup (tree.freshName :: dir)).isSome := by
        simpa [get?, entryIn] using congrArg Option.isSome found
      obtain ⟨binding, member, same⟩ := List.mem_map.mp (Table.lookup_isSome.mp bound)
      have least := (le_foldl_max (fun binding : Place × FileEntry => (binding.1.headD []).length)
        tree.entries.bindings 0).2 binding member
      simp only [same, List.headD_cons, freshName, List.length_replicate] at least
      omega

/-- In a directory that is there, a temporary file can always be made, and it is empty. -/
theorem createTemporary_of_directory (located : tree.find directory = .ok (dir, some .directory)) :
    ∃ after, tree.createTemporary directory = .ok (after, tree.freshName :: dir) ∧
      Updated tree after (tree.freshName :: dir) (some (.file [])) := by
  obtain ⟨-, -, -, there⟩ := find_eq_directory.mp located
  have clear : tree.get? (tree.freshName :: dir) ≠ some .directory := by simp [get?_freshName]
  obtain ⟨after, makes, puts⟩ := makeFile_of_directory there clear []
  refine ⟨after, ?_, puts⟩
  simp only [createTemporary, located, bind, Except.bind, makes]
  rfl

/-! ### Renaming -/

section Renaming

variable {source : Place} {error : FileError}

theorem rename_of_lost (found : tree.get? source = some (.file data))
    (lost : tree.find path = .error error) : tree.rename source path = .error error := by
  simp only [rename, found, lost, bind, Except.bind]

/-- A file is not moved into the place of a directory. -/
theorem rename_of_taken (found : tree.get? source = some (.file data))
    (target : tree.find path = .ok (place, entry))
    (taken : tree.get? place = some .directory) : tree.rename source path = .error .isDirectory := by
  simp only [rename, found, target, bind, Except.bind, makeFile_of_taken taken]

/-- A file that is renamed is at its new place with what it held, and no longer at the old one. -/
theorem rename_of_clear (found : tree.get? source = some (.file data))
    (target : tree.find path = .ok (name :: dir, entry)) (differ : name :: dir ≠ source)
    (parent : tree.get? dir = some .directory) (clear : tree.get? (name :: dir) ≠ some .directory) :
    ∃ moved after, tree.rename source path = .ok after ∧
      Updated tree moved (name :: dir) (some (.file data)) ∧ Updated moved after source none := by
  obtain ⟨moved, makes, puts⟩ := makeFile_of_directory parent clear data
  have still : moved.get? source = some (.file data) := by
    rw [puts.elsewhere differ.symm, found]
  obtain ⟨after, unlinks, drops⟩ := unlink_of_file still
  refine ⟨moved, after, ?_, puts, drops⟩
  simp only [rename, found, target, bind, Except.bind, makes, differ, if_false, unlinks]

end Renaming

end FileTree

end ObjectVault
