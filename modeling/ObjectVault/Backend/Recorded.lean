import ObjectVault.Backend

/-!
# Recorded backends

`Backend.recorded` turns a backend into one that answers the same and notes every call it gets, in
order. What a host does to a backend, whatever the backend answers, is then a list of calls.
-/

namespace ObjectVault

/-- A call that a backend gets. -/
inductive Call where
  | connect
  | openSession (service : ServiceId) (login : Login)
  | invoke (number : UInt32) (op : Operation)
  | closeSession
  | finalize
  deriving DecidableEq

/-- The state of a recorded backend: that of the backend itself, and the calls so far. -/
structure Recording (σ : Type) where
  inner : σ
  calls : List Call

namespace Recording

variable {σ α : Type}

def start (inner : σ) : Recording σ := ⟨inner, []⟩

def noting (call : Call) (action : Action σ α) : Action (Recording σ) α := do
  Action.modify fun recording => { recording with calls := recording.calls ++ [call] }
  action.onPart inner fun inner recording => { recording with inner := inner }

end Recording

/-- The backend that answers as `backend` does, and notes the calls. -/
def Backend.recorded {σ κ ς : Type} (backend : Backend σ κ ς) : Backend (Recording σ) κ ς where
  connect := Recording.noting .connect backend.connect
  openSession context service login :=
    Recording.noting (.openSession service login) (backend.openSession context service login)
  invoke session number op :=
    Recording.noting (.invoke number op) (backend.invoke session number op)
  closeSession context session :=
    Recording.noting .closeSession (backend.closeSession context session)
  finalize context := Recording.noting .finalize (backend.finalize context)

end ObjectVault
