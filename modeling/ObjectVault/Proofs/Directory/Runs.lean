import ObjectVault.Proofs.Directory.Calls
import ObjectVault.Proofs.Memory.Machine

/-!
# Runs over a store

Requests over a store whose directory starts out empty, one after another, are answered as the
requests over the backend in memory are, whichever clients make them and whatever is written straight
into the files of objects in between. After every step the files below the store are those of the
objects in memory, each under the name of its id: `trace_mirrors`.

`Mirrors` is what a store and a table have in common, and `mirrors_serve` the step that keeps it.
-/

namespace ObjectVault

namespace DirectoryStore

open Client FileTree

variable {store : DirectoryStore} {base : Place} {tree after : FileTree} {objects : Table Bytes Bytes}
  {id data : Bytes}

/-! ### Files and objects -/

/-- The files below the place of a store are those of the objects of a table: one for each object,
under its name and with its bytes, and no others. -/
structure Mirrors (store : DirectoryStore) (base : Place) (tree : FileTree)
    (objects : Table Bytes Bytes) : Prop where
  holds : ∀ id, tree.get? (store.objectPlace base id) = (objects.lookup id).map .file
  only : ∀ place data, base <:+ place → tree.get? place = some (.file data) →
    ∃! id, place = store.objectPlace base id

namespace Mirrors

/-- In a tree that mirrors a memory, no directory is in the place of an object. -/
theorem clear (mirrors : Mirrors store base tree objects) (id : Bytes) :
    tree.get? (store.objectPlace base id) ≠ some .directory := by
  rw [mirrors.holds]
  cases objects.lookup id <;> simp

theorem service_clear (mirrors : Mirrors store base tree objects) (data : Bytes) :
    tree.get? (store.serviceName :: base) ≠ some (.file data) := by
  intro file
  obtain ⟨id, same, -⟩ := mirrors.only _ data (List.suffix_cons _ base) file
  exact objectPlace_ne_service store base id same.symm

/-- A directory with nothing in it mirrors an empty memory. -/
theorem of_empty (empty : ∀ place, base <:+ place → place ≠ base → tree.get? place = none)
    (there : tree.get? base = some .directory) : Mirrors store base tree .empty := by
  refine ⟨?_, ?_⟩
  · intro id
    apply empty
    · exact (List.suffix_cons _ base).trans (List.suffix_cons _ _)
    · intro same
      have lengths := congrArg List.length same
      simp only [objectPlace, List.length_cons] at lengths
      omega
  · intro place data below file
    by_cases same : place = base
    · rw [same, there] at file
      cases file
    · rw [empty place below same] at file
      cases file

/-- A directory for the service leaves the files as they are. -/
theorem make (mirrors : Mirrors store base tree objects)
    (makes : Updated tree after (store.serviceName :: base) (some .directory)) :
    Mirrors store base after objects := by
  refine ⟨?_, ?_⟩
  · intro id
    rw [makes.elsewhere (objectPlace_ne_service store base id), mirrors.holds]
  · intro place data below file
    have differ : place ≠ store.serviceName :: base := by
      rintro rfl
      rw [makes.here] at file
      cases file
    rw [makes.elsewhere differ] at file
    exact mirrors.only place data below file

/-- The mirror is kept when an object is put on both sides. -/
theorem insert (mirrors : Mirrors store base tree objects)
    (puts : Updated tree after (store.objectPlace base id) (some (.file data))) :
    Mirrors store base after (objects.insert id data) := by
  refine ⟨?_, ?_⟩
  · intro other
    rw [Table.lookup_insert]
    split
    · next same => rw [same, puts.here, Option.map_some]
    · next differ =>
        have elsewhere := puts.elsewhere fun same => differ (objectPlace_injective same)
        rw [elsewhere, mirrors.holds]
  · intro place contents below file
    by_cases same : place = store.objectPlace base id
    · exact ⟨id, same, fun other again => objectPlace_injective (again.symm.trans same)⟩
    · rw [puts.elsewhere same] at file
      exact mirrors.only place contents below file

/-- The mirror is kept when an object is taken away on both sides. -/
theorem erase (mirrors : Mirrors store base tree objects)
    (drops : Updated tree after (store.objectPlace base id) none) :
    Mirrors store base after (objects.erase id) := by
  refine ⟨?_, ?_⟩
  · intro other
    rw [Table.lookup_erase]
    split
    · next same => rw [same, drops.here, Option.map_none]
    · next differ =>
        have elsewhere := drops.elsewhere fun same => differ (objectPlace_injective same)
        rw [elsewhere, mirrors.holds]
  · intro place contents below file
    have differ : place ≠ store.objectPlace base id := by
      rintro rfl
      rw [drops.here] at file
      cases file
    rw [drops.elsewhere differ] at file
    exact mirrors.only place contents below file

end Mirrors

/-! ### Paths that are short enough -/

/-- The most that the path of a store grows by on the way to the file of an object: the name of the
service, the name of the file, and a slash before each. -/
def depth : Nat := 36 + (2 * maxKeyLength + 4) + 2

/-- The files of all objects are within reach of the file system. -/
def Roomy (store : DirectoryStore) : Prop := store.root.length + depth ≤ maxPathLength

theorem Roomy.service (roomy : Roomy store) :
    (Path.child store.root store.serviceName).length ≤ maxPathLength := by
  have below := Path.length_child_le store.root store.serviceName
  rw [store.length_serviceName] at below
  simp only [Roomy, depth, maxKeyLength] at roomy
  omega

/-- Where there is room for the longest id, there is room for the id of every key. -/
theorem Roomy.near (roomy : Roomy store) (key : ObjectKey) :
    Near store.serviceDirectory key.bytes := by
  have service := Path.length_child_le store.root store.serviceName
  have file := Path.length_child_le store.serviceDirectory (objectName key.bytes)
  have fits : key.bytes.length ≤ maxKeyLength := key.fits
  rw [store.length_serviceName] at service
  rw [serviceDirectory_eq] at file ⊢
  rw [length_objectName] at file
  simp only [Roomy, depth, maxKeyLength, maxPathLength] at roomy fits
  refine ⟨?_, ?_⟩
  · rw [objectPath, maxPathLength]
    omega
  · rw [length_objectName, maxNameLength]
    omega

/-! ### Steps -/

inductive Step where
  /-- A request, made by a client with this login and this policy. -/
  | request (login : Login) (policy : ShortReadPolicy) (request : Request)
  /-- Bytes go straight into the file of an object, whose directory is made if it is missing. -/
  | writeRaw (key : ObjectKey) (data : Bytes)

/-- What a step replies over the store, if it is a request, and the tree after it. -/
def step (store : DirectoryStore) : Step → FileTree → Option Reply × FileTree
  | .request login policy request, tree =>
      let client : Client := ⟨store.service, login, policy⟩
      let outcome := (client.perform store.backend request).run tree
      (some outcome.value, outcome.state)
  | .writeRaw key data, tree =>
      let (made, _) := tree.createDirectories store.serviceDirectory
      let path := objectPath store.serviceDirectory key.bytes
      (none, (made.write path data).toOption.getD made)

/-- What the same step replies over the backend in memory, and the memory after it. -/
def stepInMemory (service : ServiceId) : Step → Memory → Option Reply × Memory
  | .request login policy request, memory =>
      let client : Client := ⟨service, login, policy⟩
      let outcome := (client.perform Memory.backend request).run memory
      (some outcome.value, outcome.state)
  | .writeRaw key data, memory => (none, memory.insertRaw key.bytes data)

/-- The store and the backend in memory between two steps. -/
structure Matched (store : DirectoryStore) (base : Place) (tree : FileTree) (memory : Memory) :
    Prop where
  located : tree.find store.root = .ok (base, some .directory)
  mirrors : Mirrors store base tree memory.objects
  service : memory.service = store.service
  sound : memory.faults = .none

/-- The directory of the service can always be made, if it is not there, and is then found. -/
theorem make_service (roomy : Roomy store)
    (located : tree.find store.root = .ok (base, some .directory))
    (mirrors : Mirrors store base tree objects) :
    ∃ made, tree.createDirectories store.serviceDirectory = (made, .ok ()) ∧
      made.find store.root = .ok (base, some .directory) ∧
      made.find store.serviceDirectory = .ok (store.serviceName :: base, some .directory) ∧
      Mirrors store base made objects := by
  have short : store.serviceName.length ≤ maxNameLength := by
    rw [store.length_serviceName, maxNameLength]
    omega
  obtain ⟨made, makes, adds⟩ := createDirectories_child located store.plain_serviceName
    roomy.service short mirrors.service_clear
  have again := find_mono (adds.directoriesStay fun _ => rfl) adds.current located
  refine ⟨made, makes, again, ?_, mirrors.make adds⟩
  rw [serviceDirectory_eq, find_child_of_fits again store.plain_serviceName roomy.service short,
    adds.here]

/-- The files of the store answer an order as the table that they mirror, and mirror it afterwards. -/
theorem mirrors_serve (client : Client) (order : Order) (roomy : Roomy store)
    (located : tree.find store.serviceDirectory = .ok (store.serviceName :: base, some .directory))
    (mirrors : Mirrors store base tree objects) :
    let filed := (serve (DirectoryStore.objects store.serviceDirectory) order).run tree
    let kept := (serve .inMemory order).run objects
    client.reply order filed.value = client.reply order kept.value ∧
      Mirrors store base filed.state kept.state ∧ DirectoriesStay tree filed.state ∧
      filed.state.current = tree.current := by
  cases order with
  | read key =>
      have loads := run_load located (roomy.near key) (mirrors.holds key.bytes)
      obtain ⟨replies, keeps, -⟩ := run_serve_read client
        (DirectoryStore.objects store.serviceDirectory) loads
      obtain ⟨repliesKept, keepsKept, -⟩ := run_serve_read client .inMemory
        (ObjectTable.run_load_inMemory objects key.bytes)
      simp only [replies, repliesKept, keeps, keepsKept, true_and, and_true]
      exact ⟨mirrors, fun _ there => there⟩
  | write key payload =>
      have clear := mirrors.clear key.bytes
      obtain ⟨after, e, stores, puts⟩ := run_store located (roomy.near key) clear payload.padded
      obtain ⟨replies, keeps, -⟩ := run_serve_write client
        (DirectoryStore.objects store.serviceDirectory) stores
      obtain ⟨repliesKept, keepsKept, -⟩ := run_serve_write client .inMemory
        (ObjectTable.run_store_inMemory objects key.bytes payload.padded)
      simp only [replies, repliesKept, keeps, keepsKept, true_and]
      exact ⟨mirrors.insert puts, puts.directoriesStay fun taken => absurd taken clear, puts.current⟩
  | delete key =>
      have clear := mirrors.clear key.bytes
      obtain ⟨after, removes, drops⟩ := run_remove located (roomy.near key) (mirrors.holds key.bytes)
      obtain ⟨replies, keeps, -⟩ := run_serve_delete client
        (DirectoryStore.objects store.serviceDirectory) removes
      obtain ⟨repliesKept, keepsKept, -⟩ := run_serve_delete client .inMemory
        (ObjectTable.run_remove_inMemory objects key.bytes)
      simp only [replies, repliesKept, keeps, keepsKept, true_and]
      exact ⟨mirrors.erase drops, drops.directoriesStay fun taken => absurd taken clear, drops.current⟩

/-- One step leads to the same reply on both sides, and keeps them matched. -/
theorem matched_step (roomy : Roomy store) (step : Step) {memory : Memory}
    (matched : Matched store base tree memory) :
    let filed := store.step step tree
    let kept := stepInMemory store.service step memory
    filed.1 = kept.1 ∧ Matched store base filed.2 kept.2 := by
  obtain ⟨made, makes, again, serviceThere, mirrors⟩ :=
    make_service roomy matched.located matched.mirrors
  cases step with
  | request login policy request =>
      let client : Client := ⟨store.service, login, policy⟩
      cases passes : request.checked with
      | error cause =>
          have files : (client.perform store.backend request).run tree = _ :=
            run_perform_of_refused passes tree
          have keeps : (client.perform Memory.backend request).run memory = _ :=
            run_perform_of_refused passes memory
          simp only [DirectoryStore.step, stepInMemory, files, keeps, client, true_and]
          exact matched
      | ok order =>
          have known : client.service = store.service := rfl
          have knownKept : client.service = memory.service := matched.service.symm
          obtain ⟨replies, leaves⟩ := run_execute order known makes
          obtain ⟨repliesKept, counters, leavesKept⟩ :=
            Memory.run_execute order knownKept matched.sound
          obtain ⟨same, mirrorsAfter, stay, current⟩ :=
            mirrors_serve client order roomy serviceThere mirrors
          have filed : store.step (.request login policy request) tree
              = (some ((client.execute store.backend order).run tree).value,
                ((client.execute store.backend order).run tree).state) := by
            simp only [DirectoryStore.step, perform_of_checked passes, client]
          have kept : stepInMemory store.service (.request login policy request) memory
              = (some ((client.execute Memory.backend order).run memory).value,
                ((client.execute Memory.backend order).run memory).state) := by
            simp only [stepInMemory, perform_of_checked passes, client]
          rw [filed, kept, replies, leaves, repliesKept, leavesKept, same]
          exact ⟨rfl, find_mono stay current again, mirrorsAfter, matched.service, rfl⟩
  | writeRaw key data =>
      have clear := mirrors.clear key.bytes
      obtain ⟨-, -, -, parent⟩ := find_eq_directory.mp serviceThere
      obtain ⟨after, writes, puts⟩ := makeFile_of_directory parent clear data
      have target := find_objectPath serviceThere (roomy.near key)
      have whole : made.write (objectPath store.serviceDirectory key.bytes) data = .ok after := by
        simp only [FileTree.write, target, bind, Except.bind, writes]
      have files : store.step (.writeRaw key data) tree = (none, after) := by
        simp only [DirectoryStore.step, makes, whole, Except.toOption, Option.getD_some]
      rw [files]
      refine ⟨rfl, ?_, mirrors.insert puts, matched.service, matched.sound⟩
      exact find_mono (puts.directoriesStay fun taken => absurd taken clear) puts.current again

/-- From an empty store, a run gives the replies that it gives in memory, and after every step the
files below the store are those of the objects in memory. All that is asked of the file system is
that the store is there and that no path below it is too long. -/
theorem trace_mirrors (store : DirectoryStore) (tree : FileTree) (base : Place)
    (roomy : Roomy store) (located : tree.find store.root = .ok (base, some .directory))
    (empty : ∀ place, base <:+ place → place ≠ base → tree.get? place = none) (steps : List Step) :
    List.Forall₂ (fun filed kept => filed.1 = kept.1 ∧ Mirrors store base filed.2 kept.2.objects)
      (trace store.step steps tree)
      (trace (stepInMemory store.service) steps (.hosting store.service)) := by
  have there : tree.get? base = some .directory := get?_of_find located
  have start : Matched store base tree (.hosting store.service) :=
    ⟨located, .of_empty empty there, rfl, rfl⟩
  have runs : List.Forall₂
      (fun filed kept => filed.1 = kept.1 ∧ Matched store base filed.2 kept.2)
      (trace store.step steps tree)
      (trace (stepInMemory store.service) steps (.hosting store.service)) :=
    trace_forall₂ (fun step tree memory matched => matched_step roomy step matched) steps start
  exact runs.imp fun filed kept after => ⟨after.1, after.2.mirrors⟩

/-- A store at the root of an empty tree keeps up with the memory: an object that one client puts is
read by another one, under another policy. -/
theorem trace_mirrors_slash :
    let store : DirectoryStore := ⟨[slash], .secureStorage⟩
    let steps : List Step :=
      [.request .user .report (.put "a" [1, 2]), .request .anyone .fatal (.get "a")]
    List.Forall₂ (fun filed kept => filed.1 = kept.1 ∧ Mirrors store [] filed.2 kept.2.objects)
      (trace store.step steps .empty)
      (trace (stepInMemory store.service) steps (.hosting store.service)) := by
  have roomy : Roomy ⟨[slash], .secureStorage⟩ := by
    unfold Roomy
    decide
  refine trace_mirrors ⟨[slash], .secureStorage⟩ .empty [] roomy rfl ?_ _
  intro place _ below
  simp [FileTree.empty, FileTree.get?, entryIn, below]

end DirectoryStore

end ObjectVault
