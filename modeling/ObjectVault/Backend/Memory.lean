import ObjectVault.Backend

/-!
# The backend in memory

A backend that hosts one service, keeps its objects in a finite map, counts every call and can be told
to fail. A fault stays until it is cleared. A connection that fails is not counted, a session that
fails is not counted either, and a command is counted before its fault or its answer.
-/

namespace ObjectVault

namespace Memory

/-- What has been asked of the backend so far. -/
structure Counters where
  contextsInitialized : Nat
  contextsFinalized : Nat
  sessionsOpened : Nat
  sessionsClosed : Nat
  /-- The numbers of the commands, in order. -/
  commands : List UInt32
  /-- The slots of the last command. -/
  lastKinds : Option (List SlotKind)
  /-- The login of the last session. -/
  lastLogin : Option Login
  deriving DecidableEq

namespace Counters

def zero : Counters := ⟨0, 0, 0, 0, [], none, none⟩

def invocations (counters : Counters) : Nat := counters.commands.length

/-- Whether everything that was opened has been released. -/
def isBalanced (counters : Counters) : Bool :=
  counters.contextsInitialized == counters.contextsFinalized
    && counters.sessionsOpened == counters.sessionsClosed

def contextInitialized (counters : Counters) : Counters :=
  { counters with contextsInitialized := counters.contextsInitialized + 1 }

def contextFinalized (counters : Counters) : Counters :=
  { counters with contextsFinalized := counters.contextsFinalized + 1 }

def sessionOpened (login : Login) (counters : Counters) : Counters :=
  { counters with sessionsOpened := counters.sessionsOpened + 1, lastLogin := some login }

def sessionClosed (counters : Counters) : Counters :=
  { counters with sessionsClosed := counters.sessionsClosed + 1 }

def invoked (number : UInt32) (kinds : List SlotKind) (counters : Counters) : Counters :=
  { counters with commands := counters.commands ++ [number], lastKinds := some kinds }

end Counters

/-- A call that can be told to fail. -/
inductive Stage where
  | context
  | openSession
  | invoke
  deriving DecidableEq, Repr

/-- The status with which each kind of call fails, if it does. -/
structure Faults where
  context : Option Status
  openSession : Option Status
  invoke : Option Status
  deriving DecidableEq

namespace Faults

def none : Faults := ⟨.none, .none, .none⟩

/-- The faults with one of them put in place. -/
def inject (stage : Stage) (status : Status) (faults : Faults) : Faults :=
  match stage with
  | .context => { faults with context := some status }
  | .openSession => { faults with openSession := some status }
  | .invoke => { faults with invoke := some status }

end Faults

end Memory

/-- The state of the backend in memory. -/
structure Memory where
  service : ServiceId
  objects : Table Bytes Bytes
  counters : Memory.Counters
  faults : Memory.Faults

namespace Memory

/-- The backend that hosts a service and holds nothing yet. -/
def hosting (service : ServiceId) : Memory := ⟨service, .empty, .zero, .none⟩

/-- Makes a kind of call fail from now on. -/
def inject (stage : Stage) (status : Status) (memory : Memory) : Memory :=
  { memory with faults := memory.faults.inject stage status }

def clearFaults (memory : Memory) : Memory := { memory with faults := .none }

/-- Stores bytes for an id without any session and without any limit. -/
def insertRaw (id data : Bytes) (memory : Memory) : Memory :=
  { memory with objects := memory.objects.insert id data }

def count (change : Counters → Counters) : Action Memory Unit :=
  Action.modify fun memory => { memory with counters := change memory.counters }

def onObjects {α : Type} (action : Action (Table Bytes Bytes) α) : Action Memory α :=
  action.onPart objects fun objects memory => { memory with objects := objects }

def debug (memory : Memory) : String :=
  Text.record "InMemoryTee"
    [("service", memory.service.debug), ("object_count", toString memory.objects.size)]

/-- The backend over such states; its handles carry nothing. -/
def backend : Backend Memory Unit Unit where
  connect := do
    let memory ← Action.get
    match memory.faults.context with
    | some status => return .error (.api status)
    | none =>
        count Counters.contextInitialized
        return .ok ()
  openSession _ service login := do
    let memory ← Action.get
    match memory.faults.openSession with
    | some status => return .error (.tee status)
    | none =>
        if service = memory.service then
          count (Counters.sessionOpened login)
          return .ok ()
        else return .error (.tee .itemNotFound)
  invoke _ number op := do
    count (Counters.invoked number op.kinds)
    let memory ← Action.get
    match memory.faults.invoke with
    | some status => return (.error (.tee status), op)
    | none => onObjects (Service.dispatch .inMemory number op)
  closeSession _ _ := count Counters.sessionClosed
  finalize _ := count Counters.contextFinalized

end Memory

end ObjectVault
