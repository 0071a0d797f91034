import ObjectVault.Proofs.Client.Replies
import ObjectVault.Proofs.Directory.Calls
import ObjectVault.Proofs.Memory.Machine

/-!
# Refusals

With which failures a backend of the library can refuse an order. The service itself knows two, that
an object is absent and that it does not fit (`serve_refuses`); the rest is how the two backends keep
objects and tell their service from others (`Memory.refusal_of_sound`, `DirectoryStore.refusal_cases`).
A client is told of nothing else (`refusal_of_status`).
-/

namespace ObjectVault

/-! ### The service -/

/-- A failure that a table itself can give. -/
def ObjectTable.MayFail {σ : Type} (table : ObjectTable σ) (failure : Failure) : Prop :=
  (∃ id s, ((table.load id).run s).value = .error failure) ∨
    (∃ id data s, ((table.store id data).run s).value = .error failure) ∨
    ∃ id s, ((table.remove id).run s).value = .error failure

/-- A table in memory has no failures of its own. -/
theorem ObjectTable.not_mayFail_inMemory (failure : Failure) : ¬ inMemory.MayFail failure := by
  rintro (⟨id, objects, fails⟩ | ⟨id, data, objects, fails⟩ | ⟨id, objects, fails⟩)
  · rw [run_load_inMemory] at fails
    cases fails
  · rw [run_store_inMemory] at fails
    cases fails
  · rw [run_remove_inMemory] at fails
    cases fails

namespace Client

variable {σ κ ς : Type}

/-- The read buffer of an order is there, so that only its size can be at fault. -/
theorem deliver_refuses {key : ObjectKey} {data : Bytes} {failure : Failure}
    (refuses : (Service.deliver data (readOperation key)).1 = .error failure) :
    failure = .trustedApp .shortBuffer := by
  have sent := second_readOperation key
  by_cases fits : data.length ≤ blank.bytes.length
  · rw [Service.deliver_of_fits sent fits] at refuses
    cases refuses
  · rw [Service.deliver_of_large sent (Nat.lt_of_not_le fits)] at refuses
    cases refuses
    rfl

/-- An order that got through is refused because there is no object, because the object does not fit,
or because the table fails. -/
theorem serve_refuses {table : ObjectTable σ} {order : Order} {s : σ} {failure : Failure}
    (refuses : ((serve table order).run s).value.1 = .error failure) :
    failure = .trustedApp .itemNotFound ∨ failure = .trustedApp .shortBuffer ∨
      table.MayFail failure := by
  cases order with
  | read key =>
      simp only [serve, Service.read, Action.value_bind] at refuses
      split at refuses
      · next fails =>
          cases refuses
          exact .inr (.inr (.inl ⟨_, _, fails⟩))
      · cases refuses
        exact .inl rfl
      · simp only [Action.run_pure] at refuses
        exact .inr (.inl (deliver_refuses refuses))
  | write key payload =>
      simp only [serve, Service.write, writeOperation, Slot.input?, Action.value_bind] at refuses
      exact .inr (.inr (.inr (.inl ⟨_, _, _, refuses⟩)))
  | delete key =>
      simp only [serve, Service.delete, Action.value_bind] at refuses
      split at refuses
      · next fails =>
          cases refuses
          exact .inr (.inr (.inr (.inr ⟨_, _, fails⟩)))
      · cases refuses
      · cases refuses
        exact .inl rfl

/-! ### What a client is told -/

/-- A status in the reply to a request is one with which its order was refused. -/
theorem refusal_of_status {client : Client} {backend : Backend σ κ ς} {request : Request} {s : σ}
    {error : ClientError} {status : Status}
    (fails : ((client.perform backend request).run s).value.error? = some error)
    (carries : error.status? = some status) :
    ∃ order failure, request.checked = .ok order ∧
      (client.reception backend order s).refusal? = some failure ∧ failure.status = status := by
  cases checked : request.checked with
  | error cause =>
      rw [run_perform_of_refused checked, Reply.error?_failed] at fails
      cases fails
      cases carries
  | ok order =>
      rw [perform_of_checked checked, execute_reception] at fails
      obtain ⟨failure, refuses, same⟩ := Reception.status?_of_reply fails
      exact ⟨order, failure, rfl, refuses, Option.some.inj (same.symm.trans carries)⟩

/-- No order on a backend in this state is refused with the given status, and no error tells a client
of it. -/
def NeverRefuses (backend : Backend σ κ ς) (s : σ) (status : Status) : Prop :=
  ∀ (client : Client) (request : Request),
    (∀ order failure, request.checked = .ok order →
      (client.reception backend order s).refusal? = some failure → failure.status ≠ status) ∧
    ∀ error, ((client.perform backend request).run s).value.error? = some error →
      error.status? ≠ some status

/-- It is enough to look at the orders, since every error with a status is a refusal of one. -/
theorem neverRefuses_of_orders {backend : Backend σ κ ς} {s : σ} {status : Status}
    (never : ∀ client order failure,
      (reception client backend order s).refusal? = some failure → failure.status ≠ status) :
    NeverRefuses backend s status := by
  intro client request
  refine ⟨fun order failure _ refuses => never client order failure refuses, ?_⟩
  intro error fails carries
  obtain ⟨order, failure, -, refuses, same⟩ := refusal_of_status fails carries
  exact never client order failure refuses same

/-- An order that has got a session is refused as its command is. -/
theorem refusal?_of_opened {client : Client} {backend : Backend σ κ ς} {order : Order}
    {context : κ} {session : ς} {s s₁ s₂ : σ} {e₁ e₂ : List Event} {failure : Failure}
    (connects : backend.connect.run s = ⟨.ok context, s₁, e₁⟩)
    (opens : (backend.openSession context client.service client.login).run s₁
      = ⟨.ok session, s₂, e₂⟩)
    (refuses : (client.reception backend order s).refusal? = some failure) :
    ((backend.invoke session order.command.id order.operation).run s₂).value.1
      = .error failure := by
  simp only [reception, connects, opens, Response.ofAnswered] at refuses
  generalize ((backend.invoke session order.command.id order.operation).run s₂).value.1 = answer
    at refuses
  cases answer with
  | ok => cases refuses
  | error cause =>
      cases refuses
      rfl

end Client

open Client

/-! ### The backend in memory -/

/-- Without faults, the backend in memory refuses a service that is not its own, an object that is
not there, and one that does not fit. -/
theorem Memory.refusal_of_sound {client : Client} {order : Order} {memory : Memory}
    (sound : memory.faults = .none) {failure : Failure}
    (refuses : (client.reception backend order memory).refusal? = some failure) :
    failure = .tee .itemNotFound ∨ failure = .trustedApp .itemNotFound ∨
      failure = .trustedApp .shortBuffer := by
  obtain ⟨service, objects, counters, faults⟩ := memory
  subst sound
  have connects : backend.connect.run ⟨service, objects, counters, .none⟩
      = ⟨.ok (), ⟨service, objects, counters.contextInitialized, .none⟩, []⟩ := run_connect rfl
  by_cases known : client.service = service
  · let opened : Memory :=
      ⟨service, objects, counters.contextInitialized.sessionOpened client.login, .none⟩
    have opens : (backend.openSession () client.service client.login).run
        ⟨service, objects, counters.contextInitialized, .none⟩ = ⟨.ok (), opened, []⟩ :=
      run_openSession rfl known
    have answers := refusal?_of_opened connects opens refuses
    have served : ((backend.invoke () order.command.id order.operation).run opened).value
        = ((serve .inMemory order).run objects).value := by
      rw [← dispatch_order]
      exact congrArg Outcome.value (run_invoke rfl rfl)
    rw [served] at answers
    rcases serve_refuses answers with missing | short | fails
    · exact .inr (.inl missing)
    · exact .inr (.inr short)
    · exact absurd fails (ObjectTable.not_mayFail_inMemory failure)
  · have opens : (backend.openSession () client.service client.login).run
        ⟨service, objects, counters.contextInitialized, .none⟩ = _ :=
      run_openSession_of_stranger rfl known
    simp only [reception, connects, opens] at refuses
    cases refuses
    exact .inl rfl

/-! ### The backend in a directory -/

namespace DirectoryStore

/-- Whatever the file system says, the host hears of a general failure. -/
theorem mayFail_objects {directory : Bytes} {failure : Failure}
    (fails : (objects directory).MayFail failure) : failure = .trustedApp .generic := by
  rcases fails with ⟨id, tree, fails⟩ | ⟨id, data, tree, fails⟩ | ⟨id, tree, fails⟩
  · simp only [objects, load, refused, Action.value_bind, Action.run_get] at fails
    split at fails <;> cases fails
    rfl
  · simp only [objects, store, Action.value_bind, Action.run_get] at fails
    split at fails
    · cases fails
      rfl
    · split at fails
      · cases fails
        rfl
      · simp only [persist, Action.value_bind] at fails
        split at fails <;> cases fails
        rfl
  · simp only [objects, remove, refused, Action.value_bind, Action.run_get] at fails
    split at fails <;> cases fails
    rfl

/-- The backend in a directory refuses a directory that cannot be made, a service that is not its own,
an object that is not there, one that does not fit, and what the file system refuses. -/
theorem refusal_cases {store : DirectoryStore} {client : Client} {order : Order} {tree : FileTree}
    {failure : Failure}
    (refuses : (client.reception store.backend order tree).refusal? = some failure) :
    failure = .api .communication ∨ failure = .tee .itemNotFound ∨
      failure = .trustedApp .itemNotFound ∨ failure = .trustedApp .shortBuffer ∨
      failure = .trustedApp .generic := by
  rcases creates : tree.createDirectories store.serviceDirectory with ⟨made, error | done⟩
  · simp only [reception, run_connect_of_refused creates] at refuses
    cases refuses
    exact .inl rfl
  · have connects := run_connect creates
    by_cases known : client.service = store.service
    · have opens : (store.backend.openSession store.serviceDirectory client.service
          client.login).run made = _ := run_openSession made known
      have answers := refusal?_of_opened connects opens refuses
      have served : store.backend.invoke store.serviceDirectory order.command.id order.operation
          = serve (objects store.serviceDirectory) order := dispatch_order _ order
      rw [served] at answers
      rcases serve_refuses answers with missing | short | fails
      · exact .inr (.inr (.inl missing))
      · exact .inr (.inr (.inr (.inl short)))
      · exact .inr (.inr (.inr (.inr (mayFail_objects fails))))
    · simp only [reception, connects, run_openSession_of_stranger made known] at refuses
      cases refuses
      exact .inr (.inl rfl)

end DirectoryStore

end ObjectVault
