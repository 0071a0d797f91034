import Mathlib.Data.List.Nodup
import ObjectVault.Proofs.Memory.Machine

/-!
# Guards over one backend

Hosts hold guards over one backend in memory, each under a name: they acquire them, send commands over
them, close them or let them go, while clients make calls of their own over the same backend and faults
come and go. `accounts_of_run` states that the counters keep account of all this, in every state that
such a run reaches: as many contexts and as many sessions are open as there are guards, and the
recorded commands are those that have been sent.

`Account` is that account, with a rule for each thing that is counted; `accounted_step` is the step
that keeps it.
-/

namespace ObjectVault

/-! ### The size of a table -/

namespace Table

variable {κ α : Type} [DecidableEq κ] {table : Table κ α} {key : κ}

/-- Erasing a key takes it off the list of the keys. -/
theorem keys_erase (table : Table κ α) (key : κ) :
    (table.erase key).bindings.map Prod.fst = (table.bindings.map Prod.fst).erase key := by
  rw [table.distinct.erase_eq_filter, List.filter_map]
  refine congrArg (List.map Prod.fst) (List.filter_congr ?_)
  intro binding _
  by_cases same : binding.1 = key <;> simp [same]

/-- A table loses one entry with a key that is bound. -/
theorem size_erase_of_bound (bound : (table.lookup key).isSome) :
    (table.erase key).size + 1 = table.size := by
  rw [size, size, ← List.length_map Prod.fst, keys_erase, ← List.length_map Prod.fst]
  exact List.length_erase_add_one (lookup_isSome.mp bound)

theorem size_insert_of_bound (value : α) (bound : (table.lookup key).isSome) :
    (table.insert key value).size = table.size :=
  size_erase_of_bound bound

theorem size_insert_of_absent (value : α) (absent : table.lookup key = none) :
    (table.insert key value).size = table.size + 1 := by
  have unbound : key ∉ table.bindings.map Prod.fst := by
    rw [← lookup_isSome, absent]
    simp
  rw [size, insert, List.length_cons, ← List.length_map Prod.fst, keys_erase,
    List.erase_of_not_mem unbound, List.length_map, size]

end Table

namespace Memory

open Client

/-! ### Accounts -/

/-- What the counters say where `live` sessions are open, each on a connection of its own, and these
commands have been sent. -/
structure Account (counters : Counters) (live : Nat) (commands : List UInt32) : Prop where
  contexts : counters.contextsInitialized = counters.contextsFinalized + live
  sessions : counters.sessionsOpened = counters.sessionsClosed + live
  ordered : counters.sessionsOpened ≤ counters.contextsInitialized
  commands : counters.commands = commands

namespace Account

variable {counters : Counters} {live : Nat} {commands : List UInt32}

theorem zero : Account .zero 0 [] := ⟨rfl, rfl, Nat.le_refl 0, rfl⟩

/-- Everything is released exactly where no session is open. -/
theorem isBalanced_iff (account : Account counters live commands) :
    counters.isBalanced ↔ live = 0 := by
  obtain ⟨contexts, sessions, -, -⟩ := account
  simp only [Counters.isBalanced, Bool.and_eq_true, beq_iff_eq]
  omega

/-- A connection that is given back without a session on it. -/
theorem returned (account : Account counters live commands) :
    Account counters.contextInitialized.contextFinalized live commands := by
  obtain ⟨contexts, sessions, ordered, same⟩ := account
  refine ⟨?_, sessions, ?_, same⟩
  · simp only [Counters.contextInitialized, Counters.contextFinalized]
    omega
  · simp only [Counters.contextInitialized, Counters.contextFinalized]
    omega

/-- Opening a session accounts for one more live guard. -/
theorem opened (account : Account counters live commands) (login : Login) :
    Account (counters.contextInitialized.sessionOpened login) (live + 1) commands := by
  obtain ⟨contexts, sessions, ordered, same⟩ := account
  refine ⟨?_, ?_, ?_, same⟩
  · simp only [Counters.contextInitialized, Counters.sessionOpened]
    omega
  · simp only [Counters.contextInitialized, Counters.sessionOpened]
    omega
  · simp only [Counters.contextInitialized, Counters.sessionOpened]
    omega

/-- An invocation is added to the commands, and no guard comes or goes. -/
theorem invoked (account : Account counters live commands) (number : UInt32)
    (kinds : List SlotKind) :
    Account (counters.invoked number kinds) live (commands ++ [number]) := by
  obtain ⟨contexts, sessions, ordered, rfl⟩ := account
  exact ⟨contexts, sessions, ordered, rfl⟩

/-- Releasing a guard accounts for one live guard less. -/
theorem released (account : Account counters (live + 1) commands) :
    Account counters.sessionClosed.contextFinalized live commands := by
  obtain ⟨contexts, sessions, ordered, same⟩ := account
  refine ⟨?_, ?_, ordered, same⟩
  · simp only [Counters.sessionClosed, Counters.contextFinalized]
    omega
  · simp only [Counters.sessionClosed, Counters.contextFinalized]
    omega

end Account

/-! ### What is counted of each call -/

section Counts

variable {memory after : Memory} {events : List Event} {failure : Failure} {context session : Unit}
  {service : ServiceId} {login : Login}

/-- A connection that fails is not counted. -/
theorem nothing_of_connect_error
    (connects : backend.connect.run memory = ⟨.error failure, after, events⟩) :
    after = memory ∧ events = [] := by
  cases fault : memory.faults.context with
  | some status =>
      rw [run_connect_of_fault fault] at connects
      cases connects
      exact ⟨rfl, rfl⟩
  | none =>
      rw [run_connect fault] at connects
      cases connects

/-- A connection that succeeds is counted once. -/
theorem counters_of_connect
    (connects : backend.connect.run memory = ⟨.ok context, after, events⟩) :
    after.counters = memory.counters.contextInitialized ∧ events = [] := by
  cases fault : memory.faults.context with
  | some status =>
      rw [run_connect_of_fault fault] at connects
      cases connects
  | none =>
      rw [run_connect fault] at connects
      cases connects
      exact ⟨rfl, rfl⟩

theorem nothing_of_openSession_error
    (opens : (backend.openSession context service login).run memory
      = ⟨.error failure, after, events⟩) : after = memory ∧ events = [] := by
  cases fault : memory.faults.openSession with
  | some status =>
      rw [run_openSession_of_fault fault] at opens
      cases opens
      exact ⟨rfl, rfl⟩
  | none =>
      by_cases known : service = memory.service
      · rw [run_openSession fault known] at opens
        cases opens
      · rw [run_openSession_of_stranger fault known] at opens
        cases opens
        exact ⟨rfl, rfl⟩

theorem counters_of_openSession
    (opens : (backend.openSession context service login).run memory
      = ⟨.ok session, after, events⟩) :
    after.counters = memory.counters.sessionOpened login ∧ events = [] := by
  cases fault : memory.faults.openSession with
  | some status =>
      rw [run_openSession_of_fault fault] at opens
      cases opens
  | none =>
      by_cases known : service = memory.service
      · rw [run_openSession fault known] at opens
        cases opens
        exact ⟨rfl, rfl⟩
      · rw [run_openSession_of_stranger fault known] at opens
        cases opens

/-- An invocation is counted whether it succeeds or not. -/
theorem counters_of_invoke {number : UInt32} {op : Operation}
    {answered : Service.Answer × Operation}
    (invokes : (backend.invoke session number op).run memory = ⟨answered, after, events⟩) :
    after.counters = memory.counters.invoked number op.kinds := by
  cases fault : memory.faults.invoke with
  | some status =>
      rw [run_invoke_of_fault fault] at invokes
      cases invokes
      rfl
  | none =>
      rw [run_invoke fault rfl] at invokes
      cases invokes
      rfl

end Counts

/-! ### Accounts of guards and of calls -/

section Accounts

variable {memory : Memory} {live : Nat} {commands : List UInt32}

/-- The guard that holds a connection and a session. -/
def held : Guard Unit Unit := ⟨some (), some ()⟩

/-- A guard that is acquired is live, and one that is not leaves nothing open. -/
theorem account_acquire (account : Account memory.counters live commands) (service : ServiceId)
    (login : Login) :
    let outcome := (Guard.acquire backend service login).run memory
    (outcome.value = .ok held ∧ Account outcome.state.counters (live + 1) commands) ∨
    ∃ failure, outcome.value = .error failure ∧
      Account outcome.state.counters live commands := by
  intro outcome
  rcases connects : backend.connect.run memory with ⟨⟨failure⟩ | ⟨⟨⟩⟩, first, e₁⟩
  · obtain ⟨rfl, -⟩ := nothing_of_connect_error connects
    have runs : outcome = _ := Guard.run_acquire_of_no_context connects
    rw [runs]
    exact .inr ⟨_, rfl, account⟩
  · obtain ⟨connected, -⟩ := counters_of_connect connects
    rcases opens : (backend.openSession () service login).run first
      with ⟨⟨failure⟩ | ⟨⟨⟩⟩, second, e₂⟩
    · obtain ⟨rfl, -⟩ := nothing_of_openSession_error opens
      have runs : outcome = _ := Guard.run_acquire_of_no_session connects opens run_finalize
      rw [runs]
      refine .inr ⟨_, rfl, ?_⟩
      rw [connected]
      exact account.returned
    · obtain ⟨opened, -⟩ := counters_of_openSession opens
      have runs : outcome = _ := Guard.run_acquire connects opens
      rw [runs]
      refine .inl ⟨rfl, ?_⟩
      rw [opened, connected]
      exact account.opened login

/-- An invocation through a guard keeps the account, with its command added. -/
theorem account_invoke (account : Account memory.counters live commands) (command : Command)
    (op : Operation) :
    Account ((held.invoke backend command op).run memory).state.counters live
      (commands ++ [command.id]) := by
  rcases invokes : (backend.invoke () command.id op).run memory with ⟨⟨answer, returned⟩, after, e⟩
  rw [held, Guard.run_invoke (some ()) invokes, counters_of_invoke invokes]
  exact account.invoked command.id op.kinds

theorem account_drop (account : Account memory.counters (live + 1) commands) :
    Account ((held.drop backend).run memory).state.counters live commands :=
  account.released

/-- A call of a client leaves nothing open. Its command counts where it has got a session, which is
where it reports one. -/
theorem account_perform (account : Account memory.counters live commands) (client : Client)
    (request : Request) :
    let outcome := (client.perform backend request).run memory
    Account outcome.state.counters live
      (commands ++ if .sessionOpened client.service client.login ∈ outcome.events
        then [request.command.id] else []) := by
  cases passes : request.checked with
  | error cause =>
      rw [run_perform_of_refused passes]
      have silent : Event.sessionOpened client.service client.login ∉ [request.refusal cause] := by
        rw [List.mem_singleton]
        exact (request.refusal_ne_sessionOpened cause _ _).symm
      simp only [silent, if_false, List.append_nil]
      exact account
  | ok order =>
      rw [perform_of_checked passes, ← Request.command_of_checked passes]
      have course := course_execute client backend order memory
      generalize (client.execute backend order).run memory = outcome at course ⊢
      cases course with
      | noContext connects =>
          obtain ⟨rfl, rfl⟩ := nothing_of_connect_error connects
          simpa using account
      | noSession connects opens finalizes =>
          obtain ⟨connected, rfl⟩ := counters_of_connect connects
          obtain ⟨rfl, rfl⟩ := nothing_of_openSession_error opens
          cases finalizes
          simp only [connected, List.append_nil, List.nil_append, List.mem_singleton]
          simpa using account.returned
      | answered connects opens invokes closes finalizes =>
          obtain ⟨connected, -⟩ := counters_of_connect connects
          obtain ⟨opened, -⟩ := counters_of_openSession opens
          have invoked := counters_of_invoke invokes
          cases closes
          cases finalizes
          simp only [invoked, opened, connected]
          simpa using ((account.opened client.login).invoked order.command.id _).released

end Accounts

/-! ### Desks -/

/-- A backend, and the guards that hosts hold over it, each under a name. -/
structure Desk where
  memory : Memory
  guards : Table String (Guard Unit Unit)

namespace Desk

inductive Step where
  /-- A host acquires a guard for a service, and keeps it under a name. -/
  | acquire (name : String) (service : ServiceId) (login : Login)
  | invoke (name : String) (command : Command) (op : Operation)
  | close (name : String)
  | drop (name : String)
  /-- A client makes a call of its own. -/
  | call (client : Client) (request : Request)
  | insertRaw (id data : Bytes)
  | inject (stage : Stage) (status : Status)
  | clearFaults

/-- No guard is held yet. -/
def bare (memory : Memory) : Desk := ⟨memory, .empty⟩

def onMemory {α : Type} (action : Action Memory α) : Action Desk α :=
  action.onPart memory fun memory desk => { desk with memory := memory }

/-- Carries a step out. A guard that takes the name of another is in place before that one is let go;
a guard that is closed or let go has no name any more. -/
def perform : Step → Action Desk Unit
  | .acquire name service login => do
      match ← onMemory (Guard.acquire backend service login) with
      | .error _ => return ()
      | .ok guard =>
          let replaced := (← Action.get).guards.lookup name
          Action.modify fun desk => { desk with guards := desk.guards.insert name guard }
          match replaced with
          | some guard => onMemory (guard.drop backend)
          | none => return ()
  | .invoke name command op => do
      match (← Action.get).guards.lookup name with
      | some guard => let _ ← onMemory (guard.invoke backend command op)
      | none => return ()
  | .close name => do
      match (← Action.get).guards.lookup name with
      | some guard =>
          Action.modify fun desk => { desk with guards := desk.guards.erase name }
          onMemory (guard.close backend)
      | none => return ()
  | .drop name => do
      match (← Action.get).guards.lookup name with
      | some guard =>
          Action.modify fun desk => { desk with guards := desk.guards.erase name }
          onMemory (guard.drop backend)
      | none => return ()
  | .call client request => do
      let _ ← onMemory (client.perform backend request)
  | .insertRaw id data => onMemory (Action.modify (Memory.insertRaw id data))
  | .inject stage status => onMemory (Action.modify (Memory.inject stage status))
  | .clearFaults => onMemory (Action.modify Memory.clearFaults)

/-- The numbers of the commands that a step sends: of an invocation over a guard that is held, and of
a call that reports a session. -/
def sent (desk : Desk) (events : List Event) : Step → List UInt32
  | .invoke name command _ => if (desk.guards.lookup name).isSome then [command.id] else []
  | .call client request =>
      if .sessionOpened client.service client.login ∈ events then [request.command.id] else []
  | _ => []

/-- What a step sends, and the desk after it. -/
def step (step : Step) (desk : Desk) : List UInt32 × Desk :=
  let outcome := (perform step).run desk
  (desk.sent outcome.events step, outcome.state)

/-- The account of a desk: all its guards are live, and nothing else is open. -/
structure Accounted (desk : Desk) (commands : List UInt32) : Prop where
  held : ∀ name guard, desk.guards.lookup name = some guard → guard = Memory.held
  account : Account desk.memory.counters desk.guards.size commands

theorem run_onMemory {α : Type} (action : Action Memory α) (desk : Desk) :
    (onMemory action).run desk
      = ⟨(action.run desk.memory).value, ⟨(action.run desk.memory).state, desk.guards⟩,
          (action.run desk.memory).events⟩ := rfl

section Steps

variable {desk : Desk} {commands : List UInt32}

/-- Acquiring a guard keeps the books, also where it takes the place of another one of its name. -/
theorem accounted_acquire (accounted : Accounted desk commands) (name : String)
    (service : ServiceId) (login : Login) :
    Accounted ((perform (.acquire name service login)).run desk).state commands := by
  obtain ⟨memory, guards⟩ := desk
  obtain ⟨heldAll, account⟩ := accounted
  have acquired := account_acquire account service login
  rcases acquires : (Guard.acquire backend service login).run memory with ⟨result, after, e⟩
  rw [acquires] at acquired
  obtain ⟨rfl, account⟩ | ⟨failure, rfl, account⟩ := acquired
  · have heldNow : ∀ other guard,
        (guards.insert name held).lookup other = some guard → guard = held := by
      intro other guard found
      rw [Table.lookup_insert] at found
      split at found
      · exact (Option.some.inj found).symm
      · exact heldAll other guard found
    cases replaced : guards.lookup name with
    | none =>
        have runs : ((perform (.acquire name service login)).run ⟨memory, guards⟩).state
            = ⟨after, guards.insert name held⟩ := by
          simp [perform, Action.run_bind, run_onMemory, acquires, replaced]
        rw [runs]
        refine ⟨heldNow, ?_⟩
        rw [Table.size_insert_of_absent held replaced]
        exact account
    | some guard =>
        obtain rfl := heldAll name guard replaced
        have runs : ((perform (.acquire name service login)).run ⟨memory, guards⟩).state
            = ⟨((held.drop backend).run after).state, guards.insert name held⟩ := by
          simp [perform, Action.run_bind, run_onMemory, acquires, replaced]
        rw [runs]
        refine ⟨heldNow, ?_⟩
        -- for a moment one more session is open than there are names
        rw [Table.size_insert_of_bound held (by rw [replaced]; rfl)]
        exact account_drop account
  · have runs : ((perform (.acquire name service login)).run ⟨memory, guards⟩).state
        = ⟨after, guards⟩ := by
      simp [perform, Action.run_bind, run_onMemory, acquires]
    rw [runs]
    exact ⟨heldAll, account⟩

/-- A guard that loses its name is released. -/
theorem accounted_release (accounted : Accounted desk commands) {name : String}
    {guard : Guard Unit Unit} (bound : desk.guards.lookup name = some guard) :
    Accounted ⟨((guard.drop backend).run desk.memory).state, desk.guards.erase name⟩ commands := by
  obtain ⟨heldAll, account⟩ := accounted
  refine ⟨?_, ?_⟩
  · intro other guard found
    rw [Table.lookup_erase] at found
    split at found
    · cases found
    · exact heldAll other guard found
  · obtain rfl := heldAll name guard bound
    rw [← Table.size_erase_of_bound (by rw [bound]; rfl)] at account
    exact account_drop account

/-- A step keeps the account. -/
theorem accounted_step (accounted : Accounted desk commands) (step : Step) :
    Accounted (desk.step step).2 (commands ++ (desk.step step).1) := by
  cases step with
  | acquire name service login =>
      simp only [Desk.step, sent, List.append_nil]
      exact accounted_acquire accounted name service login
  | invoke name command op =>
      cases bound : desk.guards.lookup name with
      | none =>
          have runs : (perform (.invoke name command op)).run desk = ⟨(), desk, []⟩ := by
            simp [perform, Action.run_bind, bound]
          simp only [Desk.step, sent, runs, bound, Option.isSome_none, Bool.false_eq_true, if_false,
            List.append_nil]
          exact accounted
      | some guard =>
          obtain rfl := accounted.held name guard bound
          have runs : ((perform (.invoke name command op)).run desk).state
              = ⟨((held.invoke backend command op).run desk.memory).state, desk.guards⟩ := by
            simp [perform, Action.run_bind, Action.run_map, run_onMemory, bound]
          simp only [Desk.step, sent, runs, bound, Option.isSome_some, if_true]
          exact ⟨accounted.held, account_invoke accounted.account command op⟩
  | close name | drop name =>
      simp only [Desk.step, sent, List.append_nil]
      cases bound : desk.guards.lookup name with
      | none =>
          simp only [perform, Action.state_bind, Action.run_get, bound]
          exact accounted
      | some guard =>
          simp only [perform, Action.state_bind, Action.run_get, bound, Action.run_modify,
            run_onMemory, Guard.close_eq_drop]
          exact accounted_release accounted bound
  | call client request =>
      simp only [Desk.step, sent, perform, Action.run_bind, run_onMemory, Action.run_pure,
        List.append_nil]
      exact ⟨accounted.held, account_perform accounted.account client request⟩
  | insertRaw id data | inject stage status | clearFaults =>
      simp only [Desk.step, sent, List.append_nil]
      exact ⟨accounted.held, accounted.account⟩

end Steps

/-- In every state that a run over a new backend reaches, all guards with a name are live, as many
contexts and as many sessions are open as there are guards, and the recorded commands are those that
have been sent, in order. So everything is released exactly where no guard is left. -/
theorem accounts_of_run (service : ServiceId) (steps : List Step) :
    let start := bare (.hosting service)
    let desk := final step steps start
    let counters := desk.memory.counters
    (∀ name guard, desk.guards.lookup name = some guard → guard.isOpen) ∧
      counters.contextsInitialized = counters.contextsFinalized + desk.guards.size ∧
      counters.sessionsOpened = counters.sessionsClosed + desk.guards.size ∧
      counters.sessionsOpened ≤ counters.contextsInitialized ∧
      counters.commands = (trace step steps start).flatMap Prod.fst ∧
      (counters.isBalanced ↔ desk.guards.size = 0) := by
  intro start desk counters
  have begins : Accounted start [] := by
    refine ⟨?_, .zero⟩
    intro name guard found
    cases found
  have advance : ∀ (next : Step) (desk : Desk) (told : List UInt32), Accounted desk told →
      Accounted (desk.step next).2 (told ++ (desk.step next).1) := by
    intro next desk told accounted
    exact accounted_step accounted next
  obtain ⟨heldAll, account⟩ := final_of_kept advance steps begins
  refine ⟨?_, account.contexts, account.sessions, account.ordered, account.commands,
    account.isBalanced_iff⟩
  intro name guard found
  rw [heldAll name guard found]
  rfl

end Desk

end Memory

end ObjectVault
