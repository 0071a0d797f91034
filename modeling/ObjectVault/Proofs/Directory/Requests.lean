import ObjectVault.Proofs.Directory.Holdings
import ObjectVault.Proofs.FileTree.Preparation

/-!
# Requests to a store

What any request comes to over any file tree, and how a store stays in use. Where the directory of the
service cannot be made, the request is turned away (`perform_of_not_admits`); where it can, the
request is decided by what stands in the place of its object's file (`perform_of_admits`).

* `Usable`: the store can be used for an object. It says all that is asked of a tree before the first
  request.
* `Ready`: the directory of the service is there. Every request that is not turned away leaves a store
  that is ready, for all who come to it by the same path (`perform_settles`), and as long as it is,
  nobody is turned away (`Ready.admits`).
-/

namespace ObjectVault

namespace DirectoryStore

open Client FileTree

/-! ### What a request comes to over a store -/

section Requests

variable {store : DirectoryStore} {client : Client} {request : Request} {order : Order}
  {tree : FileTree}

theorem short_serviceName (store : DirectoryStore) : store.serviceName.length ≤ maxNameLength := by
  rw [store.length_serviceName, maxNameLength]
  omega

/-- The reply to an order for which the directory of the service cannot be made. -/
def turnedAway (order : Order) : Reply :=
  .failed order.command (.session ⟨.context, .api .communication⟩)

/-- Where the directory of the service cannot be made, only directories above it are, if any. -/
theorem perform_of_not_admits (client : Client) (passes : request.checked = .ok order)
    (refuses : ¬ Admits tree store.root store.serviceName) :
    let outcome := (client.perform store.backend request).run tree
    outcome.value = turnedAway order ∧
      (outcome.state = tree ∨ outcome.state = (tree.prepared store.root).1) := by
  obtain ⟨made, error, creates, makes⟩ := createDirectories_of_not_admits store.plain_serviceName
    store.short_serviceName refuses
  rw [← serviceDirectory_eq] at creates
  rw [perform_of_checked passes, run_execute_of_no_context (run_connect_of_refused creates)]
  exact ⟨rfl, makes⟩

/-- Where it can be made, the order is decided by what stands in the place of its object's file. -/
theorem perform_of_admits (known : client.service = store.service)
    (passes : request.checked = .ok order) (admits : Admits tree store.root store.serviceName) :
    let place := store.objectPlace (tree.aim store.root) order.key.bytes
    let outcome := (client.perform store.backend request).run tree
    ∃ made,
      Updated (tree.prepared store.root).1 made (store.serviceName :: tree.aim store.root)
        (some .directory) ∧
      let held := held store.serviceDirectory order.key.bytes (made.get? place)
      outcome.value = heldReply client.policy order held ∧
      Updated made outcome.state place (entryAfter order held (made.get? place)) := by
  obtain ⟨made, creates, makes⟩ := createDirectories_of_admits store.plain_serviceName
    store.short_serviceName admits
  rw [← serviceDirectory_eq] at creates
  obtain ⟨dir, located⟩ := find_of_createDirectories store.serviceDirectory_named
    (congrArg Prod.snd creates)
  rw [creates] at located
  have current : made.current = tree.current :=
    makes.current.trans (extended_prepared tree store.root).current
  obtain rfl : store.serviceName :: tree.aim store.root = dir := by
    rw [← aim_of_find located, aim_of_current current, serviceDirectory_eq,
      aim_child tree store.root store.plain_serviceName]
  obtain ⟨replies, leaves⟩ := run_execute order known creates
  obtain ⟨answers, changes⟩ := serve_held client order located
  refine ⟨made, makes, ?_, ?_⟩
  · rw [perform_of_checked passes, replies]
    exact answers
  · rw [perform_of_checked passes, leaves]
    exact changes

/-- No request puts anything in the place of a directory. -/
theorem entryAfter_of_directory (directory : Bytes) (order : Order) :
    entryAfter order (held directory order.key.bytes (some .directory)) (some .directory)
      = some .directory := by
  rw [held_of_blocked fun _ => rfl]
  cases order with
  | read key | write key payload | delete key => rfl

/-- No directory is lost on the way to the end of a request, from its start on and from when the
directory of the service is there. -/
theorem directoriesStay_of_changes {made after : FileTree} {path : Bytes} {name : Name}
    {directory : Bytes} {base place : Place}
    (makes : Updated (tree.prepared path).1 made (name :: base) (some .directory))
    (changes : Updated made after place
      (entryAfter order (held directory order.key.bytes (made.get? place)) (made.get? place))) :
    DirectoriesStay (tree.prepared path).1 after ∧ DirectoriesStay made after := by
  have laid := makes.directoriesStay fun _ => rfl
  have kept : DirectoriesStay made after := by
    refine changes.directoriesStay fun there => ?_
    rw [there]
    exact entryAfter_of_directory directory order
  exact ⟨fun place there => kept place (laid place there), kept⟩

/-- Once the directory of the service has been made, there is no need to make those above it again. -/
theorem prepared_of_changes {made after : FileTree} {path : Bytes} {name : Name}
    {directory : Bytes} {place : Place} (prepares : (tree.prepared path).2 = .ok ())
    (makes : Updated (tree.prepared path).1 made (name :: tree.aim path) (some .directory))
    (changes : Updated made after place
      (entryAfter order (held directory order.key.bytes (made.get? place)) (made.get? place))) :
    after.prepared path = (after, .ok ()) ∧ after.current = tree.current := by
  have current : after.current = tree.current :=
    (changes.current.trans makes.current).trans (extended_prepared tree path).current
  have stay := (directoriesStay_of_changes makes changes).1
  exact ⟨prepared_of_stay prepares stay current, current⟩

/-- No request changes where relative paths start. -/
theorem current_perform (request : Request) (tree : FileTree)
    (known : client.service = store.service) :
    ((client.perform store.backend request).run tree).state.current = tree.current := by
  cases passes : request.checked with
  | error cause => rw [run_perform_of_refused passes]
  | ok order =>
      by_cases admits : Admits tree store.root store.serviceName
      · obtain ⟨made, makes, -, changes⟩ := perform_of_admits known passes admits
        exact (prepared_of_changes admits.prepares makes changes).2
      · obtain ⟨-, leaves⟩ := perform_of_not_admits client passes admits
        rcases leaves with same | grown
        · rw [same]
        · rw [grown]
          exact (extended_prepared tree store.root).current

end Requests

/-! ### Stores in use -/

/-- The directory of the service is there, in the place `base`, for all who start from `home`. -/
structure Ready (store : DirectoryStore) (home base : Place) (tree : FileTree) : Prop where
  noNul : 0 ∉ store.root
  near : (Path.child store.root store.serviceName).length ≤ maxPathLength
  walks : tree.walk (Path.namesOf store.root) home = .ok base
  there : tree.get? (store.serviceName :: base) = some .directory

namespace Ready

variable {store : DirectoryStore} {home base : Place} {before after tree : FileTree}

theorem mono (stay : DirectoriesStay before after) (ready : Ready store home base before) :
    Ready store home base after :=
  ⟨ready.noNul, ready.near, walk_mono stay ready.walks, stay _ ready.there⟩

theorem above (ready : Ready store home base tree) : tree.get? base = some .directory :=
  get?_parent (by rw [ready.there]; rfl)

theorem aim (ready : Ready store home base tree) (starts : tree.origin store.root = home) :
    tree.aim store.root = base := by
  rw [FileTree.aim, starts]
  exact resolve_of_walk ready.walks

/-- There is nothing left to be made above the directory of the service. -/
theorem prepared (ready : Ready store home base tree) (starts : tree.origin store.root = home) :
    tree.prepared store.root = (tree, .ok ()) := by
  have onward := createAlong_of_walk ready.walks ready.above []
  rw [List.append_nil] at onward
  rw [FileTree.prepared, starts]
  exact onward

/-- A store that is ready turns nobody away. -/
theorem admits (ready : Ready store home base tree) (starts : tree.origin store.root = home) :
    Admits tree store.root store.serviceName := by
  refine ⟨ready.noNul, ready.near, ?_, ?_⟩
  · rw [ready.prepared starts]
  · rw [ready.prepared starts, ready.aim starts, ready.above, ready.there]
    rfl

end Ready

section Settling

variable {store : DirectoryStore} {client : Client} {request : Request} {order : Order}
  {tree : FileTree}

/-- A request that is not turned away leaves a store that is ready, and the files of all objects but
its own as they are. -/
theorem perform_settles (known : client.service = store.service)
    (passes : request.checked = .ok order) (admits : Admits tree store.root store.serviceName) :
    let base := tree.aim store.root
    let grown := (tree.prepared store.root).1
    let entry := grown.get? (store.objectPlace base order.key.bytes)
    let held := held store.serviceDirectory order.key.bytes entry
    let outcome := (client.perform store.backend request).run tree
    outcome.value = heldReply client.policy order held ∧
      Ready store (tree.origin store.root) base outcome.state ∧
      ∀ id, outcome.state.get? (store.objectPlace base id)
        = if id = order.key.bytes then entryAfter order held entry
          else grown.get? (store.objectPlace base id) := by
  intro base grown entry held outcome
  obtain ⟨made, makes, replies, changes⟩ := perform_of_admits known passes admits
  have laid (id : Bytes) :
      made.get? (store.objectPlace base id) = grown.get? (store.objectPlace base id) :=
    makes.elsewhere (objectPlace_ne_service store base id)
  obtain ⟨stayAll, stay⟩ := directoriesStay_of_changes makes changes
  rw [laid] at replies changes
  refine ⟨replies, ⟨admits.noNul, admits.near, ?_, ?_⟩, ?_⟩
  · exact walk_mono stayAll (walk_prepared admits.prepares)
  · exact stay _ makes.here
  · intro id
    rw [changes.get?, laid]
    by_cases same : id = order.key.bytes
    · rw [same, if_pos rfl, if_pos rfl]
    · rw [if_neg same, if_neg fun places => same (objectPlace_injective places)]

/-- A request to a store that is ready is decided by the file of its object. -/
theorem Ready.perform {home base : Place} (ready : Ready store home base tree)
    (starts : tree.origin store.root = home) (known : client.service = store.service)
    (passes : request.checked = .ok order) :
    let entry := tree.get? (store.objectPlace base order.key.bytes)
    let held := held store.serviceDirectory order.key.bytes entry
    let outcome := (client.perform store.backend request).run tree
    outcome.value = heldReply client.policy order held ∧
      Ready store home base outcome.state ∧
      ∀ id, outcome.state.get? (store.objectPlace base id)
        = if id = order.key.bytes then entryAfter order held entry
          else tree.get? (store.objectPlace base id) := by
  have settles := perform_settles known passes (ready.admits starts)
  rw [ready.prepared starts, ready.aim starts, starts] at settles
  exact settles

end Settling

end DirectoryStore

end ObjectVault
