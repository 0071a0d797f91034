import ObjectVault.Proofs.FileTree.Effects

/-!
# The way to a directory

What is done on the way to a directory before anything is done in it. A walk that comes through ends
where its names say by themselves (`resolve_of_walk`), so that the place of a path can be told before any
of it is there: `FileTree.aim`.

Making the directories of a longer path first makes those of its front: `createAlong_append_of_ok` and
`createAlong_append_of_error` say so for success and for failure, and `createAlong_again` that the
front needs to be made only once. `prepared` is the tree with the directories of a path, as far as
they can be made, and `createDirectories_child_eq` what is left to do for a name in that directory.
-/

namespace ObjectVault

namespace Path

/-- Where a name leads from a place, if it leads anywhere. -/
def resolve (place : Place) (name : Name) : Place :=
  if name = here then place else if name = above then place.tail else name :: place

theorem resolve_of_plain {name : Name} (plain : Plain name) (place : Place) :
    resolve place name = name :: place := by
  rw [resolve, if_neg plain.notHere, if_neg plain.notAbove]

end Path

namespace FileTree

variable {tree after : FileTree} {place inner : Place} {name : Name} {names : List Name}

theorem resolve_of_step (steps : tree.step place name = .ok inner) :
    Path.resolve place name = inner := by
  have there := directory_of_step steps
  simp only [step, there] at steps
  rw [Path.resolve]
  split at steps
  · next same =>
      cases steps
      rw [if_pos same]
  · next other =>
      rw [if_neg other]
      split at steps
      · next same =>
          cases steps
          rw [if_pos same]
      · next plain =>
          rw [if_neg plain]
          split at steps
          · cases steps
          · cases steps
            rfl

/-- A walk that comes through ends where its names say. -/
theorem resolve_of_walk (walks : tree.walk names place = .ok inner) :
    names.foldl Path.resolve place = inner := by
  induction names generalizing place with
  | nil =>
      cases walks
      rfl
  | cons name rest ih =>
      obtain ⟨next, steps, onward⟩ := walk_cons_eq_ok.mp walks
      rw [List.foldl_cons, resolve_of_step steps]
      exact ih onward

/-! ### Making directories along a way -/

/-- What stands in the way once a step has been taken is a file. -/
theorem occupied_of_step {error : FileError} (steps : tree.step place name = .ok inner)
    (refuses : tree.makeDirectory inner = .error error) : error = .occupied := by
  have there := directory_of_step steps
  have resolved := resolve_of_step steps
  rw [Path.resolve] at resolved
  split at resolved
  · subst resolved
    rw [makeDirectory_of_directory there] at refuses
    cases refuses
  split at resolved
  · subst resolved
    cases place with
    | nil => cases refuses
    | cons last dir =>
        have above : tree.get? dir = some .directory := get?_parent (by rw [there]; rfl)
        rw [List.tail_cons, makeDirectory_of_directory above] at refuses
        cases refuses
  · subst resolved
    rcases found : tree.get? (name :: place) with _ | _ | data
    · obtain ⟨made, makes, -⟩ := makeDirectory_of_absent there found
      rw [makes] at refuses
      cases refuses
    · rw [makeDirectory_of_directory found] at refuses
      cases refuses
    · rw [makeDirectory_of_file found] at refuses
      cases refuses
      rfl

/-- Where the directories along some names can be made, a longer way goes on from there. -/
theorem createAlong_append_of_ok (makes : createAlong tree place names = (after, .ok ()))
    (rest : List Name) :
    createAlong tree place (names ++ rest)
      = createAlong after (names.foldl Path.resolve place) rest := by
  induction names generalizing tree place with
  | nil =>
      cases makes
      rfl
  | cons name others ih =>
      simp only [createAlong] at makes
      cases steps : tree.step place name with
      | error error => simp [steps] at makes
      | ok next =>
          cases made : tree.makeDirectory next with
          | error error => simp [steps, made] at makes
          | ok grown =>
              simp only [steps, made] at makes
              simp only [List.cons_append, createAlong, steps, made, List.foldl_cons,
                resolve_of_step steps]
              exact ih makes

/-- How an error on the last step of a way reads where the way goes on: a file that is in the place of
the last directory is then in the way. -/
def onTheWay : FileError → FileError
  | .occupied => .notDirectory
  | error => error

/-- A step fails for the same reasons on the way as at the end. -/
theorem onTheWay_of_step {error : FileError} (refuses : tree.step place name = .error error) :
    onTheWay error = error := by
  cases error with
  | occupied =>
      simp only [step] at refuses
      split at refuses
      · cases refuses
      · cases refuses
      · split at refuses
        · cases refuses
        split at refuses
        · cases refuses
        split at refuses <;> cases refuses
  | notFound | notDirectory | isDirectory | nameTooLong | badPath | notText => rfl

/-- Where the directories along some names cannot all be made, a longer way gets no further. -/
theorem createAlong_append_of_error {error : FileError}
    (stops : createAlong tree place names = (after, .error error)) (next : Name)
    (rest : List Name) :
    createAlong tree place (names ++ next :: rest) = (after, .error (onTheWay error)) := by
  induction names generalizing tree place with
  | nil => cases stops
  | cons name others ih =>
      simp only [createAlong] at stops
      simp only [List.cons_append, createAlong]
      cases steps : tree.step place name with
      | error cause =>
          simp only [steps, Prod.mk.injEq, Except.error.injEq] at stops
          obtain ⟨rfl, rfl⟩ := stops
          simp only [onTheWay_of_step steps]
      | ok inner =>
          cases made : tree.makeDirectory inner with
          | error cause =>
              obtain rfl := occupied_of_step steps made
              simp only [steps, made, Prod.mk.injEq, Except.error.injEq] at stops
              obtain ⟨rfl, rfl⟩ := stops
              simp only [made, List.append_eq_nil_iff, reduceCtorEq, and_false, if_false]
              split <;> rfl
          | ok grown =>
              simp only [steps, made] at stops
              simp only [made]
              exact ih stops

/-- What has been made along some names stays as it is when it is made again. -/
theorem createAlong_again (tree : FileTree) (place : Place) (names : List Name) :
    createAlong (createAlong tree place names).1 place names = createAlong tree place names := by
  induction names generalizing tree place with
  | nil => rfl
  | cons name rest ih =>
      cases steps : tree.step place name with
      | error error => simp only [createAlong, steps]
      | ok inner =>
          cases made : tree.makeDirectory inner with
          | error error => simp only [createAlong, steps, made]
          | ok grown =>
              have onward := ih grown inner
              have adds := (extended_createAlong grown rest inner).1
              obtain ⟨grows, there⟩ := extended_makeDirectory made
              have whole : createAlong tree place (name :: rest) = createAlong grown inner rest := by
                simp only [createAlong, steps, made]
              rw [whole]
              generalize createAlong grown inner rest = ending at onward adds
              have stepsAgain : ending.1.step place name = .ok inner :=
                step_mono adds.directoriesStay (step_mono grows.directoriesStay steps)
              have stays := adds.directoriesStay inner there
              simp only [createAlong, stepsAgain, makeDirectory_of_directory stays]
              exact onward

/-! ### The place of a path -/

def origin (tree : FileTree) (path : Bytes) : Place :=
  if path.head? = some slash then [] else tree.current

/-- The place that a path leads to, if it leads anywhere. -/
def aim (tree : FileTree) (path : Bytes) : Place :=
  (Path.namesOf path).foldl Path.resolve (tree.origin path)

/-- The tree with the directories of a path, as far as they can be made. -/
def prepared (tree : FileTree) (path : Bytes) : FileTree × Except FileError Unit :=
  createAlong tree (tree.origin path) (Path.namesOf path)

theorem origin_of_current {before after : FileTree} (same : after.current = before.current)
    (path : Bytes) : after.origin path = before.origin path := by
  rw [origin, origin, same]

theorem aim_of_current {before after : FileTree} (same : after.current = before.current)
    (path : Bytes) : after.aim path = before.aim path := by
  rw [aim, aim, origin_of_current same]

/-- A path into a directory aims at a place right below the directory's. -/
theorem aim_child (tree : FileTree) (directory : Bytes) (plain : Path.Plain name) :
    tree.aim (Path.child directory name) = name :: tree.aim directory := by
  have starts : tree.origin (Path.child directory name) = tree.origin directory := by
    simp only [origin, Path.head?_child directory plain]
  rw [aim, Path.namesOf_child directory plain, starts, List.foldl_append, List.foldl_cons,
    List.foldl_nil, Path.resolve_of_plain plain, aim]

/-- What a path leads to is at its place. -/
theorem aim_of_find {path : Bytes} (located : tree.find path = .ok (place, some .directory)) :
    tree.aim path = place := by
  obtain ⟨parsed, made, walks, -⟩ := find_eq_directory.mp located
  obtain ⟨-, -, -, rfl⟩ := Path.ofBytes_eq_ok.mp made
  have starts : tree.start ⟨path.head? = some slash, Path.namesOf path, path.getLast? = some slash⟩
      = tree.origin path := by
    rw [start, origin]
    simp
  rw [aim, ← starts]
  exact resolve_of_walk walks

/-- Preparing a path only adds directories. -/
theorem extended_prepared (tree : FileTree) (path : Bytes) :
    Extended tree (tree.prepared path).1 fun _ => True :=
  (extended_createAlong tree (Path.namesOf path) _).1.mono fun _ _ => trivial

/-- Preparing a path again changes nothing. -/
theorem prepared_again (tree : FileTree) (path : Bytes) :
    (tree.prepared path).1.prepared path = tree.prepared path := by
  have current := (extended_prepared tree path).current
  rw [prepared, origin_of_current current]
  exact createAlong_again tree _ _

/-- The names of a path that has been prepared can be walked to its place. -/
theorem walk_prepared {path : Bytes} (prepares : (tree.prepared path).2 = .ok ()) :
    (tree.prepared path).1.walk (Path.namesOf path) (tree.origin path) = .ok (tree.aim path) := by
  by_cases unnamed : Path.namesOf path = []
  · rw [aim, unnamed]
    rfl
  · obtain ⟨inner, walks, -⟩ := (extended_createAlong tree (Path.namesOf path) _).2 prepares
      fun none => absurd none unnamed
    rw [aim, resolve_of_walk walks]
    exact walks

/-- A path that has been prepared stays so as long as the directories stay. -/
theorem prepared_of_stay {path : Bytes} (prepares : (tree.prepared path).2 = .ok ())
    (stay : DirectoriesStay (tree.prepared path).1 after) (current : after.current = tree.current) :
    after.prepared path = (after, .ok ()) := by
  rw [prepared, origin_of_current current]
  by_cases unnamed : Path.namesOf path = []
  · rw [unnamed]
    rfl
  · obtain ⟨inner, walks, there⟩ := (extended_createAlong tree (Path.namesOf path) _).2 prepares
      fun none => absurd none unnamed
    have onward := createAlong_of_walk (walk_mono stay walks) (stay inner there) []
    rw [List.append_nil] at onward
    exact onward

/-- To make the directory of a plain name, the directories above it are made first. -/
theorem createDirectories_child_eq (tree : FileTree) (directory : Bytes) (plain : Path.Plain name) :
    tree.createDirectories (Path.child directory name)
      = if 0 ∈ directory then (tree, .error .badPath)
        else if maxPathLength < (Path.child directory name).length then (tree, .error .nameTooLong)
        else match tree.prepared directory with
          | (grown, .error error) => (grown, .error (onTheWay error))
          | (grown, .ok ()) => createAlong grown (tree.aim directory) [name] := by
  rw [createDirectories, Path.ofBytes_child_of_plain directory plain]
  by_cases bad : 0 ∈ directory
  · rw [if_pos bad, if_pos bad]
  by_cases far : maxPathLength < (Path.child directory name).length
  · rw [if_neg bad, if_neg bad, if_pos far, if_pos far]
  rw [if_neg bad, if_neg bad, if_neg far, if_neg far]
  have starts : tree.start ⟨directory.head? = some slash, Path.namesOf directory ++ [name], false⟩
      = tree.origin directory := by
    rw [start, origin]
    simp
  dsimp only
  rw [starts]
  rcases makes : tree.prepared directory with ⟨grown, error | ⟨⟨⟩⟩⟩
  · exact createAlong_append_of_error makes name []
  · exact createAlong_append_of_ok makes [name]

/-- What is in the way of a directory, from what stands in the place of the one above and in its own
place. -/
def obstacle (above own : Option FileEntry) : Option FileError :=
  match above, own with
  | none, _ => some .notFound
  | some (.file _), _ => some .notDirectory
  | some .directory, some (.file _) => some .occupied
  | some .directory, _ => none

/-- What stands in the way of the last directory decides how making it fails, and then nothing is
made. -/
theorem createAlong_of_obstacle {dir : Place} {error : FileError} (plain : Path.Plain name)
    (short : name.length ≤ maxNameLength)
    (found : obstacle (tree.get? dir) (tree.get? (name :: dir)) = some error) :
    createAlong tree dir [name] = (tree, .error error) := by
  rcases above : tree.get? dir with _ | _ | data
  · simp only [above, obstacle, Option.some.injEq] at found
    simp only [createAlong, step, above, found]
  · have steps := step_plain above plain
    rw [if_neg (Nat.not_lt_of_le short)] at steps
    rcases own : tree.get? (name :: dir) with _ | _ | data
    · simp [above, own, obstacle] at found
    · simp [above, own, obstacle] at found
    · simp only [above, own, obstacle, Option.some.injEq] at found
      simp only [createAlong, steps, makeDirectory_of_file own, if_true, found]
  · simp only [above, obstacle, Option.some.injEq] at found
    simp only [createAlong, step, above, found]

/-- Without an obstacle the last directory is there afterwards, and that is the only change. -/
theorem createAlong_of_no_obstacle {dir : Place} (plain : Path.Plain name)
    (short : name.length ≤ maxNameLength)
    (free : obstacle (tree.get? dir) (tree.get? (name :: dir)) = none) :
    ∃ made, createAlong tree dir [name] = (made, .ok ()) ∧
      Updated tree made (name :: dir) (some .directory) := by
  rcases above : tree.get? dir with _ | _ | data
  · simp [above, obstacle] at free
  · have steps := step_plain above plain
    rw [if_neg (Nat.not_lt_of_le short)] at steps
    rcases own : tree.get? (name :: dir) with _ | _ | data
    · obtain ⟨made, makes, puts⟩ := makeDirectory_of_absent above own
      exact ⟨made, by simp only [createAlong, steps, makes], puts⟩
    · refine ⟨tree, by simp only [createAlong, steps, makeDirectory_of_directory own], rfl, ?_⟩
      intro other
      split
      · next same => rw [same, own]
      · rfl
    · simp [above, own, obstacle] at free
  · simp [above, obstacle] at free

/-- A directory of a plain name can be made below the directory of a path. -/
structure Admits (tree : FileTree) (directory : Bytes) (name : Name) : Prop where
  noNul : 0 ∉ directory
  near : (Path.child directory name).length ≤ maxPathLength
  prepares : (tree.prepared directory).2 = .ok ()
  free : obstacle ((tree.prepared directory).1.get? (tree.aim directory))
    ((tree.prepared directory).1.get? (name :: tree.aim directory)) = none

/-- Where the tree admits a directory, it is made after those above it. -/
theorem createDirectories_of_admits {directory : Bytes} (plain : Path.Plain name)
    (short : name.length ≤ maxNameLength) (admits : Admits tree directory name) :
    ∃ made, tree.createDirectories (Path.child directory name) = (made, .ok ()) ∧
      Updated (tree.prepared directory).1 made (name :: tree.aim directory) (some .directory) := by
  rw [createDirectories_child_eq tree directory plain, if_neg admits.noNul,
    if_neg (Nat.not_lt_of_le admits.near)]
  obtain ⟨-, -, prepares, free⟩ := admits
  rcases makes : tree.prepared directory with ⟨grown, result⟩
  rw [makes] at prepares free
  cases prepares
  exact createAlong_of_no_obstacle plain short free

/-- Where a directory cannot be made, only those above it are, if any. -/
theorem createDirectories_of_not_admits {directory : Bytes} (plain : Path.Plain name)
    (short : name.length ≤ maxNameLength) (refuses : ¬ Admits tree directory name) :
    ∃ made error, tree.createDirectories (Path.child directory name) = (made, .error error) ∧
      (made = tree ∨ made = (tree.prepared directory).1) := by
  rw [createDirectories_child_eq tree directory plain]
  split
  · exact ⟨tree, _, rfl, .inl rfl⟩
  split
  · exact ⟨tree, _, rfl, .inl rfl⟩
  · next noNul near =>
      rcases makes : tree.prepared directory with ⟨grown, error | ⟨⟨⟩⟩⟩
      · exact ⟨grown, _, rfl, .inr rfl⟩
      · cases found : obstacle (grown.get? (tree.aim directory))
            (grown.get? (name :: tree.aim directory)) with
        | some error =>
            exact ⟨grown, error, createAlong_of_obstacle plain short found, .inr rfl⟩
        | none =>
            have admits : Admits tree directory name := by
              refine ⟨noNul, Nat.le_of_not_lt near, ?_, ?_⟩
              · rw [makes]
              · rw [makes]
                exact found
            exact absurd admits refuses

end FileTree

end ObjectVault
