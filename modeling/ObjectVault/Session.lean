import ObjectVault.Backend

/-!
# Sessions

A host that opens a session holds a guard: the connection and the session on it. Releasing the guard
closes the session and then the connection; a guard that has been released holds nothing, so that
releasing it again does nothing (`release_released`). A session that cannot be opened gives its
connection back at once.
-/

namespace ObjectVault

/-- What a host holds of a backend: a connection and a session on it, until they are released. -/
structure Guard (κ ς : Type) where
  context : Option κ
  session : Option ς

namespace Guard

variable {σ κ ς : Type}

/-- The guard that holds nothing. -/
def released : Guard κ ς := ⟨none, none⟩

def isOpen (guard : Guard κ ς) : Bool := guard.session.isSome

def debug (guard : Guard κ ς) : String :=
  Text.record "Session" [("open", if guard.isOpen then "true" else "false")]

/-- Connects, and opens a session with a service. Neither step is tried twice. -/
def acquire (backend : Backend σ κ ς) (service : ServiceId) (login : Login) :
    Action σ (Except SessionFailure (Guard κ ς)) := do
  match ← backend.connect with
  | .error failure => return .error ⟨.context, failure⟩
  | .ok context =>
      match ← backend.openSession context service login with
      | .ok session =>
          Action.report (.sessionOpened service login)
          return .ok ⟨some context, some session⟩
      | .error failure =>
          backend.finalize context
          return .error ⟨.openSession, failure⟩

/-- Sends a command over the session, and gives back its slots as the host then sees them. -/
def invoke (backend : Backend σ κ ς) (guard : Guard κ ς) (command : Command) (op : Operation) :
    Action σ (Service.Answer × Operation) :=
  match guard.session with
  | none => return (.error (.api .badState), op)
  | some session => do
      Action.report (.invoking command op.kinds)
      let (answer, returned) ← backend.invoke session command.id op
      return (answer, op.updated returned)

def closeSession (backend : Backend σ κ ς) (guard : Guard κ ς) : Action σ Unit :=
  match guard.session, guard.context with
  | some session, some context => backend.closeSession context session
  | _, _ => return ()

def finalize (backend : Backend σ κ ς) (guard : Guard κ ς) : Action σ Unit :=
  match guard.context with
  | some context => do
      backend.finalize context
      Action.report .sessionClosed
  | none => return ()

/-- Closes the session, then the connection, and leaves a guard that holds neither. -/
def release (backend : Backend σ κ ς) (guard : Guard κ ς) : Action σ (Guard κ ς) := do
  guard.closeSession backend
  guard.finalize backend
  return released

/-- What happens to a guard that goes out of use: it is released. -/
def drop (backend : Backend σ κ ς) (guard : Guard κ ς) : Action σ Unit := do
  let _ ← guard.release backend

/-- Releases a guard on request; the guard then goes out of use. -/
def close (backend : Backend σ κ ς) (guard : Guard κ ς) : Action σ Unit := do
  let guard ← guard.release backend
  guard.drop backend

/-- A guard is released once; after that there is nothing to release. -/
theorem release_released (backend : Backend σ κ ς) :
    (released : Guard κ ς).release backend = pure released := rfl

theorem drop_released (backend : Backend σ κ ς) :
    (released : Guard κ ς).drop backend = pure () := rfl

/-- Closing a guard is releasing it once. -/
theorem close_eq_drop (backend : Backend σ κ ς) (guard : Guard κ ς) :
    guard.close backend = guard.drop backend := by
  simp [close, drop, release, closeSession, finalize, released]

end Guard

/-- The diagnostic text of what opens sessions: its backend, the service and the login. -/
def sessionManagerDebug (backend : String) (service : ServiceId) (login : Login) : String :=
  Text.record "SessionManager"
    [("driver", backend), ("uuid", service.debug), ("login", login.debug)]

end ObjectVault
