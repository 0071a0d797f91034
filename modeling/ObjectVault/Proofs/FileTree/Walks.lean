import ObjectVault.FileTree
import ObjectVault.Proofs.Results

/-!
# Walks along paths

Where a path leads in a file tree. A walk takes the names of a path one after another, and only
directories let it through, so that it ends at the same place in every tree that still has the
directories of the first (`walk_mono`, `find_mono`).

`find_child` says what becomes of a name in a directory that has been found: the path is too long, or
it leads to the name in that directory.
-/

namespace ObjectVault

namespace Path

/-! ### The names of a path -/

/-- The names in a path, from the outermost to the innermost. -/
def namesOf (bytes : Bytes) : List Name := (pieces bytes).filter (· ≠ [])

/-- A name that stands for itself wherever it is in a path. -/
structure Plain (name : Name) : Prop where
  nonempty : name ≠ []
  noSlash : slash ∉ name
  noNul : 0 ∉ name
  notHere : name ≠ here
  notAbove : name ≠ above

theorem pieces_ne_nil (bytes : Bytes) : pieces bytes ≠ [] := by
  cases bytes with
  | nil => simp [pieces]
  | cons b rest =>
      simp only [pieces]
      split
      · simp
      · split <;> simp

theorem pieces_of_notMem {name : Name} (noSlash : slash ∉ name) : pieces name = [name] := by
  induction name with
  | nil => rfl
  | cons b rest ih =>
      have other : b ≠ slash := fun same => noSlash (same ▸ List.mem_cons_self)
      have whole := ih fun later => noSlash (List.mem_cons_of_mem b later)
      simp only [pieces, other, if_false, whole]

/-- A slash separates the pieces of what is on either side of it. -/
theorem pieces_append_slash (first second : Bytes) :
    pieces (first ++ slash :: second) = pieces first ++ pieces second := by
  induction first with
  | nil => simp [pieces]
  | cons b rest ih =>
      by_cases same : b = slash
      · simp [pieces, same, ih]
      · obtain ⟨piece, others, cut⟩ := List.exists_cons_of_ne_nil (pieces_ne_nil rest)
        simp [pieces, same, ih, cut]

theorem namesOf_append_slash (first second : Bytes) :
    namesOf (first ++ slash :: second) = namesOf first ++ namesOf second := by
  rw [namesOf, pieces_append_slash, List.filter_append]
  rfl

theorem namesOf_of_plain {name : Name} (plain : Plain name) : namesOf name = [name] := by
  rw [namesOf, pieces_of_notMem plain.noSlash]
  simp [plain.nonempty]

/-- A path of a name in a directory goes through the directory, however that is spelled. -/
theorem namesOf_child (directory : Bytes) {name : Name} (plain : Plain name) :
    namesOf (child directory name) = namesOf directory ++ [name] := by
  have single := namesOf_of_plain plain
  rw [child]
  split
  · next closes =>
      rcases closes with rfl | closes
      · exact single
      · obtain ⟨front, rfl⟩ := List.getLast?_eq_some_iff.mp closes
        have cut : namesOf (front ++ [slash]) = namesOf front := by
          rw [namesOf_append_slash]
          exact List.append_nil _
        rw [List.append_assoc, List.singleton_append, namesOf_append_slash, single, cut]
  · rw [namesOf_append_slash, single]

theorem length_child_le (directory : Bytes) (name : Name) :
    (child directory name).length ≤ directory.length + name.length + 1 := by
  rw [child]
  split <;> simp; omega

theorem length_le_child (directory : Bytes) (name : Name) :
    directory.length ≤ (child directory name).length := by
  rw [child]
  split <;> simp

/-! ### Paths that can be taken apart -/

/-- Bytes make a path exactly if there are some, none of them is zero, and they are not too many. -/
theorem ofBytes_eq_ok {bytes : Bytes} {path : Path} :
    ofBytes bytes = .ok path ↔ 0 ∉ bytes ∧ bytes ≠ [] ∧ bytes.length ≤ maxPathLength ∧
      path = ⟨bytes.head? = some slash, namesOf bytes, bytes.getLast? = some slash⟩ := by
  rw [ofBytes]
  split
  · next nul => exact ⟨fun made => (nomatch made), fun plain => absurd nul plain.1⟩
  split
  · next empty => exact ⟨fun made => (nomatch made), fun plain => absurd empty plain.2.1⟩
  split
  · next large =>
      exact ⟨fun made => (nomatch made), fun plain => absurd plain.2.2.1 (Nat.not_le_of_lt large)⟩
  · next noNul nonempty fits =>
      constructor
      · intro made
        cases made
        exact ⟨noNul, nonempty, Nat.le_of_not_lt fits, rfl⟩
      · rintro ⟨-, -, -, rfl⟩
        rfl

/-- A path of a plain name in a directory starts at the root where the directory's does. -/
theorem head?_child (directory : Bytes) {name : Name} (plain : Plain name) :
    (child directory name).head? = some slash ↔ directory.head? = some slash := by
  rcases directory.eq_nil_or_concat with rfl | ⟨_, _, rfl⟩
  · simp only [child, true_or, if_true, List.nil_append, List.head?_nil, reduceCtorEq, iff_false]
    exact fun slashed => plain.noSlash (List.mem_of_mem_head? slashed)
  · rw [child]
    split <;> simp

/-- The path of a plain name in a directory, whether the directory's can be taken apart or not. -/
theorem ofBytes_child_of_plain (directory : Bytes) {name : Name} (plain : Plain name) :
    ofBytes (child directory name)
      = if 0 ∈ directory then .error .badPath
        else if maxPathLength < (child directory name).length then .error .nameTooLong
        else .ok ⟨directory.head? = some slash, namesOf directory ++ [name], false⟩ := by
  have nul : 0 ∈ child directory name ↔ 0 ∈ directory := by
    rw [child]
    split <;> simp [plain.noNul, slash]
  have nonempty : child directory name ≠ [] := by
    rw [child]
    split <;> simp [plain.nonempty]
  by_cases bad : 0 ∈ directory
  · rw [if_pos bad, ofBytes, if_pos (nul.mpr bad)]
  rw [if_neg bad]
  split
  · next large => rw [ofBytes, if_neg (mt nul.mp bad), if_neg nonempty, if_pos large]
  · next fits =>
      have last : (child directory name).getLast? ≠ some slash := by
        obtain ⟨front, final, rfl⟩ := (List.eq_nil_or_concat name).resolve_left plain.nonempty
        have other : final ≠ slash := fun same => plain.noSlash (by simp [same])
        rw [child, List.concat_eq_append]
        split
        · rw [← List.append_assoc, List.getLast?_concat]
          exact fun same => other (Option.some.inj same)
        · rw [← List.cons_append, ← List.append_assoc, List.getLast?_concat]
          exact fun same => other (Option.some.inj same)
      refine ofBytes_eq_ok.mpr ⟨mt nul.mp bad, nonempty, Nat.le_of_not_lt fits, ?_⟩
      rw [namesOf_child directory plain, decide_eq_false last,
        decide_eq_decide.mpr (head?_child directory plain)]

/-- The path of a plain name in a directory can be taken apart where the directory's can, unless it is
too long. -/
theorem ofBytes_child {directory : Bytes} {path : Path} {name : Name}
    (made : ofBytes directory = .ok path) (plain : Plain name) :
    ofBytes (child directory name)
      = if maxPathLength < (child directory name).length then .error .nameTooLong
        else .ok ⟨path.absolute, path.names ++ [name], false⟩ := by
  obtain ⟨noNul, -, -, rfl⟩ := ofBytes_eq_ok.mp made
  rw [ofBytes_child_of_plain directory plain, if_neg noNul]

end Path

namespace FileTree

/-! ### Walks -/

def walk (tree : FileTree) (names : List Name) (place : Place) : Except FileError Place :=
  names.foldlM tree.step place

/-- The second tree still has the directories of the first. -/
def DirectoriesStay (before after : FileTree) : Prop :=
  ∀ place, before.get? place = some .directory → after.get? place = some .directory

variable {tree before after : FileTree} {place inner dir : Place} {name : Name} {names : List Name}
  {path directory : Bytes} {parsed : Path}

theorem walk_cons (name : Name) (names : List Name) (place : Place) :
    tree.walk (name :: names) place = tree.step place name >>= tree.walk names :=
  List.foldlM_cons

/-- A walk succeeds exactly if its first step does and the rest of it from there. -/
theorem walk_cons_eq_ok {last : Place} :
    tree.walk (name :: names) place = .ok last
      ↔ ∃ inner, tree.step place name = .ok inner ∧ tree.walk names inner = .ok last := by
  rw [walk_cons, bind_eq_ok_iff]

/-- A walk along two stretches is the walks along each, one after the other. -/
theorem walk_append (first second : List Name) (place : Place) :
    tree.walk (first ++ second) place = tree.walk first place >>= tree.walk second :=
  List.foldlM_append

/-- A walk along one name is one step. -/
theorem walk_singleton (name : Name) (place : Place) :
    tree.walk [name] place = tree.step place name :=
  bind_pure (tree.step place name)

theorem walk_concat_eq_ok {last : Place} :
    tree.walk (names ++ [name]) place = .ok last
      ↔ ∃ inner, tree.walk names place = .ok inner ∧ tree.step inner name = .ok last := by
  simp only [walk_append, bind_eq_ok_iff, walk_singleton]

/-- Only a directory lets a walk through. -/
theorem directory_of_step (steps : tree.step place name = .ok inner) :
    tree.get? place = some .directory := by
  simp only [step] at steps
  split at steps
  · cases steps
  · cases steps
  · next found => exact found

/-- A step that succeeds leads to the same place as long as the directories stay. -/
theorem step_mono (stay : DirectoriesStay before after) (steps : before.step place name = .ok inner) :
    after.step place name = .ok inner := by
  have old := directory_of_step steps
  have new := stay place old
  simp only [step, old] at steps
  simpa only [step, new] using steps

/-- So does a whole walk, by induction on its names. -/
theorem walk_mono (stay : DirectoriesStay before after)
    (walks : before.walk names place = .ok inner) : after.walk names place = .ok inner := by
  induction names generalizing place with
  | nil => exact walks
  | cons name rest ih =>
      obtain ⟨next, steps, onward⟩ := walk_cons_eq_ok.mp walks
      exact walk_cons_eq_ok.mpr ⟨next, step_mono stay steps, ih onward⟩

/-- A plain name leads one directory down, unless it is too long. -/
theorem step_plain (located : tree.get? place = some .directory) (plain : Path.Plain name) :
    tree.step place name
      = if maxNameLength < name.length then .error .nameTooLong else .ok (name :: place) := by
  simp only [step, located, plain.notHere, plain.notAbove, if_false]

theorem start_of_current (same : after.current = before.current) (parsed : Path) :
    after.start parsed = before.start parsed := by
  rw [start, start, same]

/-! ### Finding -/

theorem find_of_bad_path {error : FileError} (refused : Path.ofBytes path = .error error) :
    tree.find path = .error error := by
  rw [find, refused]
  rfl

theorem find_of_no_walk {error : FileError} (made : Path.ofBytes path = .ok parsed)
    (blocked : tree.walk parsed.names (tree.start parsed) = .error error) :
    tree.find path = .error error := by
  rw [walk] at blocked
  simp only [find, made, bind, Except.bind, blocked]

/-- Where a walk gets to a place, what is there is found, unless it is a file and the path ends in a
slash. -/
theorem find_of_walk (made : Path.ofBytes path = .ok parsed)
    (walks : tree.walk parsed.names (tree.start parsed) = .ok place) :
    tree.find path
      = match tree.get? place with
        | some (.file data) =>
            if parsed.closed then .error .notDirectory else .ok (place, some (.file data))
        | entry => .ok (place, entry) := by
  rw [walk] at walks
  simp only [find, made, bind, Except.bind, walks]
  rcases tree.get? place with _ | _ | data
  · rfl
  · rfl
  · cases parsed.closed <;> rfl

/-- What is found is where the path leads. -/
theorem walk_of_find {entry : Option FileEntry} (found : tree.find path = .ok (place, entry)) :
    ∃ parsed, Path.ofBytes path = .ok parsed ∧
      tree.walk parsed.names (tree.start parsed) = .ok place := by
  cases made : Path.ofBytes path with
  | error error => simp [find_of_bad_path made] at found
  | ok parsed =>
      cases walks : tree.walk parsed.names (tree.start parsed) with
      | error error => simp [find_of_no_walk made walks] at found
      | ok last =>
          refine ⟨parsed, rfl, walks.trans ?_⟩
          rw [find_of_walk made walks] at found
          split at found
          · split at found
            · cases found
            · cases found
              rfl
          · cases found
            rfl

/-- What is found is what the tree has at that place. -/
theorem get?_of_find {entry : Option FileEntry} (found : tree.find path = .ok (place, entry)) :
    tree.get? place = entry := by
  obtain ⟨parsed, made, walks⟩ := walk_of_find found
  rw [find_of_walk made walks] at found
  split at found
  · split at found
    · cases found
    · cases found
      assumption
  · cases found
    rfl

/-- A directory is found exactly if the walk ends at one. -/
theorem find_eq_directory :
    tree.find path = .ok (dir, some .directory)
      ↔ ∃ parsed, Path.ofBytes path = .ok parsed ∧
          tree.walk parsed.names (tree.start parsed) = .ok dir ∧ tree.get? dir = some .directory := by
  constructor
  · intro located
    obtain ⟨parsed, made, walks⟩ := walk_of_find located
    exact ⟨parsed, made, walks, get?_of_find located⟩
  · rintro ⟨parsed, made, walks, there⟩
    rw [find_of_walk made walks, there]

/-- The contents of a file are read exactly if the path finds a file with these contents. -/
theorem read_eq_ok {data : Bytes} :
    tree.read path = .ok data ↔ ∃ place, tree.find path = .ok (place, some (.file data)) := by
  rw [read]
  rcases tree.find path with error | ⟨place, _ | _ | other⟩
  · exact ⟨fun reads => (nomatch reads), fun ⟨_, finds⟩ => (nomatch finds)⟩
  · exact ⟨fun reads => (nomatch reads), fun ⟨_, finds⟩ => (nomatch finds)⟩
  · exact ⟨fun reads => (nomatch reads), fun ⟨_, finds⟩ => (nomatch finds)⟩
  · constructor
    · intro reads
      cases reads
      exact ⟨place, rfl⟩
    · rintro ⟨_, finds⟩
      cases finds
      rfl

/-- A directory that is there is found again as long as the directories stay. -/
theorem find_mono (stay : DirectoriesStay before after) (sameCurrent : after.current = before.current)
    (located : before.find path = .ok (dir, some .directory)) :
    after.find path = .ok (dir, some .directory) := by
  obtain ⟨parsed, made, walks, there⟩ := find_eq_directory.mp located
  refine find_eq_directory.mpr ⟨parsed, made, ?_, stay dir there⟩
  rw [start_of_current sameCurrent]
  exact walk_mono stay walks

/-- What becomes of a plain name in a directory that is there. -/
theorem find_child (located : tree.find directory = .ok (dir, some .directory))
    (plain : Path.Plain name) :
    tree.find (Path.child directory name)
      = if maxPathLength < (Path.child directory name).length ∨ maxNameLength < name.length then
          .error .nameTooLong
        else .ok (name :: dir, tree.get? (name :: dir)) := by
  obtain ⟨parsed, made, walks, there⟩ := find_eq_directory.mp located
  have child_made := Path.ofBytes_child made plain
  by_cases far : maxPathLength < (Path.child directory name).length
  · rw [if_pos far] at child_made
    rw [find_of_bad_path child_made, if_pos (.inl far)]
  rw [if_neg far] at child_made
  have last := step_plain there plain
  have whole : tree.walk (parsed.names ++ [name]) (tree.start parsed) = tree.step dir name := by
    rw [walk_append, walks]
    exact walk_singleton name dir
  by_cases long : maxNameLength < name.length
  · rw [if_pos long] at last
    rw [find_of_no_walk child_made (whole.trans last), if_pos (.inr long)]
  · rw [if_neg long] at last
    rw [find_of_walk child_made (whole.trans last), if_neg (not_or.mpr ⟨far, long⟩)]
    split
    · next found => rw [found]; rfl
    · rfl

theorem find_child_of_fits (located : tree.find directory = .ok (dir, some .directory))
    (plain : Path.Plain name) (near : (Path.child directory name).length ≤ maxPathLength)
    (short : name.length ≤ maxNameLength) :
    tree.find (Path.child directory name) = .ok (name :: dir, tree.get? (name :: dir)) := by
  rw [find_child located plain, if_neg]
  rintro (far | long)
  · exact absurd near (Nat.not_le_of_lt far)
  · exact absurd short (Nat.not_le_of_lt long)

/-- What is found under a plain name lies in a directory that is found. -/
theorem find_parent {entry : Option FileEntry} (named : directory ≠ []) (plain : Path.Plain name)
    (found : tree.find (Path.child directory name) = .ok (place, entry)) :
    (Path.child directory name).length ≤ maxPathLength ∧ name.length ≤ maxNameLength ∧
      ∃ dir, tree.find directory = .ok (dir, some .directory) ∧ place = name :: dir := by
  obtain ⟨parsed, made, walks⟩ := walk_of_find found
  rw [Path.ofBytes_child_of_plain directory plain] at made
  split at made
  · cases made
  next noNul =>
  split at made
  · cases made
  next fits =>
  have near := Nat.le_of_not_lt fits
  have nearer := Nat.le_trans (Path.length_le_child directory name) near
  cases made
  obtain ⟨dir, above, steps⟩ := walk_concat_eq_ok.mp walks
  have there := directory_of_step steps
  rw [step_plain there plain] at steps
  split at steps
  · cases steps
  next short =>
  cases steps
  refine ⟨near, Nat.le_of_not_lt short, dir, ?_, rfl⟩
  exact find_eq_directory.mpr
    ⟨_, Path.ofBytes_eq_ok.mpr ⟨noNul, named, nearer, rfl⟩, above, there⟩

end FileTree

end ObjectVault
