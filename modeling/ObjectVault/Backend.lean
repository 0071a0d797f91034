import ObjectVault.Service

/-!
# Backends

A secure backend is reached in three steps: a connection, a session with a trusted service on it, and
commands over the session. Both are released by the host. A backend is given by what it does at each
step, over a state and two kinds of handles of its own choosing; nothing is asked of how it answers.
-/

namespace ObjectVault

/-- A secure backend with states `σ`, contexts `κ` and sessions `ς`. -/
structure Backend (σ κ ς : Type) where
  /-- Connects to the backend. -/
  connect : Action σ (Except Failure κ)
  /-- Opens a session with a service. -/
  openSession : κ → ServiceId → Login → Action σ (Except Failure ς)
  /-- Answers the command with the given number, and hands its slots back. -/
  invoke : ς → UInt32 → Operation → Action σ (Service.Answer × Operation)
  /-- Releases a session. -/
  closeSession : κ → ς → Action σ Unit
  /-- Releases a connection. -/
  finalize : κ → Action σ Unit

end ObjectVault
