import ObjectVault.Proofs.Client.Bracket
import ObjectVault.Proofs.Directory.Storage

/-!
# Calls over a store

What a call of a client leaves in a file tree, over every store and whatever the tree looks like
before. A call makes at most the directory of the service and those above it. On top of that, a
success of a put sets the one file of the object, a success of a deletion takes that file away, and
everything else, errors included, leaves the tree as it is: `effect_perform`.
-/

namespace ObjectVault

namespace DirectoryStore

open Client FileTree

/-! ### Connections and sessions -/

/-- The path of the service's directory has a name in it, whatever the path of the store. -/
theorem serviceDirectory_named (store : DirectoryStore) :
    Path.namesOf store.serviceDirectory ≠ [] := by
  rw [serviceDirectory_eq, Path.namesOf_child store.root store.plain_serviceName]
  simp

section Calls

variable {store : DirectoryStore} {client : Client} {tree made : FileTree}
  {directory : Bytes}

/-- A host connects where the directory of the service can be made, and gets its path. -/
theorem run_connect (makes : tree.createDirectories store.serviceDirectory = (made, .ok ())) :
    store.backend.connect.run tree = ⟨.ok store.serviceDirectory, made, []⟩ := by
  simp [backend, Action.run_bind, Action.run_map, makes]

/-- Where the directory cannot be made, the host hears of a failure of the connection, and the reason
is reported. -/
theorem run_connect_of_refused {error : FileError}
    (refuses : tree.createDirectories store.serviceDirectory = (made, .error error)) :
    store.backend.connect.run tree
      = ⟨.error (.api .communication), made,
          [.directoryUnavailable store.serviceDirectory error]⟩ := by
  simp [backend, Action.run_bind, Action.run_map, refuses]

theorem run_openSession {login : Login} (tree : FileTree) (known : client.service = store.service) :
    (store.backend.openSession directory client.service login).run tree
      = ⟨.ok directory, tree, []⟩ := by
  simp [backend, known]

/-- A store knows no other service than its own. -/
theorem run_openSession_of_stranger {login : Login} (tree : FileTree)
    (strange : client.service ≠ store.service) :
    (store.backend.openSession directory client.service login).run tree
      = ⟨.error (.tee .itemNotFound), tree, []⟩ := by
  simp [backend, strange]

/-- An order that gets a session is served from the files in the directory of the service. -/
theorem run_execute (order : Order) (known : client.service = store.service)
    (makes : tree.createDirectories store.serviceDirectory = (made, .ok ())) :
    let served := (serve (objects store.serviceDirectory) order).run made
    let outcome := (client.execute store.backend order).run tree
    outcome.value = client.reply order served.value ∧ outcome.state = served.state := by
  intro served outcome
  have invokes :
      (store.backend.invoke store.serviceDirectory order.command.id order.operation).run made
        = ⟨(served.value.1, served.value.2), served.state, served.events⟩ :=
    congrArg (fun action => action.run made) (dispatch_order (objects store.serviceDirectory) order)
  have runs : outcome = _ := run_execute_of_opened (run_connect makes) (run_openSession made known)
    invokes rfl rfl
  rw [runs]
  exact ⟨rfl, rfl⟩

end Calls

/-! ### What a call leaves behind -/

/-- What a request that has got this reply leaves of a tree in which all directories are made. -/
def Effect (directory : Bytes) (request : Request) (before after : FileTree) : Reply → Prop
  | .write (.ok ()) => ∃ key payload place,
      request.checked = .ok (.write key payload) ∧
      Updated before after place (some (.file payload.padded)) ∧
      after.find (objectPath directory key.bytes) = .ok (place, some (.file payload.padded))
  | .deletion (.ok .success) => ∃ key place data,
      request.checked = .ok (.delete key) ∧
      before.find (objectPath directory key.bytes) = .ok (place, some (.file data)) ∧
      Updated before after place none
  | _ => Unchanged before after

section Effects

variable {directory : Bytes} {dir : Place} {request : Request} {tree : FileTree}

/-- Where the directory of the service is there, an answer has the effect that its reply tells of. -/
theorem effect_serve (client : Client) {order : Order} (passes : request.checked = .ok order)
    (located : tree.find directory = .ok (dir, some .directory)) :
    let served := (serve (objects directory) order).run tree
    Effect directory request tree served.state (client.reply order served.value) := by
  cases order with
  | read key =>
      rcases loads : (load directory key.bytes).run tree with ⟨loaded, after, e⟩
      have same : after = tree := by
        have kept := state_load directory key.bytes tree
        rwa [loads] at kept
      subst same
      obtain ⟨replies, keeps, -⟩ := run_serve_read client (objects directory) loads
      simp only [replies, keeps]
      rcases loaded with failure | _ | data
      · simp only [loadedReply, refusedReply]
        split
        · exact .refl after
        · split <;> exact .refl after
      · exact .refl after
      · exact .refl after
  | write key payload =>
      by_cases blocked : Near directory key.bytes → tree.get? (objectName key.bytes :: dir)
          = some .directory
      · obtain ⟨after, e, stores, nothing⟩ := run_store_of_blocked located blocked payload.padded
        obtain ⟨replies, keeps, -⟩ := run_serve_write client (objects directory) stores
        simp only [replies, keeps]
        exact nothing
      · obtain ⟨near, clear⟩ := Classical.not_imp.mp blocked
        obtain ⟨after, e, stores, puts⟩ := run_store located near clear payload.padded
        obtain ⟨replies, keeps, -⟩ := run_serve_write client (objects directory) stores
        simp only [replies, keeps]
        refine ⟨key, payload, objectName key.bytes :: dir, passes, puts, ?_⟩
        have locatedAfter := find_mono (puts.directoriesStay fun taken => absurd taken clear)
          puts.current located
        rw [find_objectPath locatedAfter near, puts.here]
  | delete key =>
      rcases removes : (remove directory key.bytes).run tree with ⟨removed, after, e⟩
      have effect := effect_remove directory key.bytes tree
      obtain ⟨replies, keeps, -⟩ := run_serve_delete client (objects directory) removes
      simp only [removes, replies, keeps] at effect ⊢
      rcases effect with ⟨rfl, place, data, target, drops⟩ | ⟨fails, rfl⟩
      · exact ⟨key, place, data, passes, target, drops⟩
      · rcases removed with failure | _ | _
        · simp only [removedReply, refusedReply]
          split <;> exact .refl after
        · exact .refl after
        · exact absurd rfl fails

/-- A call that fails before its command has no effect on the files. -/
theorem effect_failed (command : Command) (error : ClientError) (request : Request)
    (tree : FileTree) : Effect directory request tree tree (.failed command error) := by
  cases command with
  | readRaw | writeRaw | delete => exact .refl tree

end Effects

/-- A call makes the directories on the way to the service's, as far as they are missing, and has the
effect that its reply tells of; a call that is refused before the backend hears of it does nothing at
all. -/
theorem effect_perform (store : DirectoryStore) (client : Client) (request : Request)
    (before : FileTree) :
    let outcome := (client.perform store.backend request).run before
    (∀ cause, outcome.value.error? = some (.precondition cause) → outcome.state = before) ∧
      ∃ grown, Extended before grown (grown.OnPath store.serviceDirectory) ∧
        Effect store.serviceDirectory request grown outcome.state outcome.value := by
  cases passes : request.checked with
  | error cause =>
      intro outcome
      have runs : outcome = _ := run_perform_of_refused passes before
      rw [runs]
      exact ⟨fun _ _ => rfl, before, .refl before _, effect_failed _ _ request before⟩
  | ok order =>
      rw [perform_of_checked passes]
      have unblamed := execute_ne_precondition client store.backend order before
      refine ⟨fun cause blamed => absurd blamed (unblamed cause), ?_⟩
      rcases creates : before.createDirectories store.serviceDirectory with ⟨grown, result⟩
      have adds : Extended before grown (grown.OnPath store.serviceDirectory) := by
        have extends_before := extended_createDirectories before store.serviceDirectory
        rwa [creates] at extends_before
      refine ⟨grown, adds, ?_⟩
      cases result with
      | error error =>
          rw [run_execute_of_no_context (run_connect_of_refused creates)]
          exact effect_failed _ _ request grown
      | ok =>
          by_cases known : client.service = store.service
          · obtain ⟨replies, leaves⟩ := run_execute order known creates
            obtain ⟨dir, located⟩ := find_of_createDirectories store.serviceDirectory_named
              (congrArg Prod.snd creates)
            rw [creates] at located
            rw [replies, leaves]
            exact effect_serve client passes located
          · rw [run_execute_of_no_session (run_connect creates)
              (run_openSession_of_stranger grown known) rfl]
            exact effect_failed _ _ request grown

end DirectoryStore

end ObjectVault
