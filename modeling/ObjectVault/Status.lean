import ObjectVault.Text.Quoted

/-!
# Status codes and where they come from

A backend answers with a thirty-two bit status. Twenty statuses have names; every other one is kept
as it is, so that it can still be reported. A `Failure` is a status together with the layer that
produced it.
-/

namespace ObjectVault

/-! ### Statuses -/

/-- The status with which a backend answers a call. -/
structure Status where
  code : UInt32
  deriving DecidableEq, Repr

namespace Status

def success : Status := ⟨0⟩
def generic : Status := ⟨0xFFFF0000⟩
def accessDenied : Status := ⟨0xFFFF0001⟩
def cancel : Status := ⟨0xFFFF0002⟩
def accessConflict : Status := ⟨0xFFFF0003⟩
def excessData : Status := ⟨0xFFFF0004⟩
def badFormat : Status := ⟨0xFFFF0005⟩
def badParameters : Status := ⟨0xFFFF0006⟩
def badState : Status := ⟨0xFFFF0007⟩
def itemNotFound : Status := ⟨0xFFFF0008⟩
def notImplemented : Status := ⟨0xFFFF0009⟩
def notSupported : Status := ⟨0xFFFF000A⟩
def noData : Status := ⟨0xFFFF000B⟩
def outOfMemory : Status := ⟨0xFFFF000C⟩
def busy : Status := ⟨0xFFFF000D⟩
def communication : Status := ⟨0xFFFF000E⟩
def security : Status := ⟨0xFFFF000F⟩
def shortBuffer : Status := ⟨0xFFFF0010⟩
def targetDead : Status := ⟨0xFFFF3024⟩
def storageNoSpace : Status := ⟨0xFFFF3041⟩

/-- The statuses that have a name, with it. -/
def names : List (Status × String) := [
  (success, "SUCCESS"), (generic, "GENERIC"), (accessDenied, "ACCESS_DENIED"), (cancel, "CANCEL"),
  (accessConflict, "ACCESS_CONFLICT"), (excessData, "EXCESS_DATA"), (badFormat, "BAD_FORMAT"),
  (badParameters, "BAD_PARAMETERS"), (badState, "BAD_STATE"), (itemNotFound, "ITEM_NOT_FOUND"),
  (notImplemented, "NOT_IMPLEMENTED"), (notSupported, "NOT_SUPPORTED"), (noData, "NO_DATA"),
  (outOfMemory, "OUT_OF_MEMORY"), (busy, "BUSY"), (communication, "COMMUNICATION"),
  (security, "SECURITY"), (shortBuffer, "SHORT_BUFFER"), (targetDead, "TARGET_DEAD"),
  (storageNoSpace, "STORAGE_NO_SPACE")]

def name? (status : Status) : Option String := names.lookup status

def isSuccess (status : Status) : Bool := status == success

def hex (status : Status) : String := "0x" ++ Text.hexNat status.code.toNat

def text (status : Status) : String :=
  match status.name? with
  | some name => status.hex ++ " (" ++ name ++ ")"
  | none => status.hex

/-- The diagnostic text of a status: its name, or its code where it has none. -/
def debug (status : Status) : String := Text.tagged "ResultCode" (status.name?.getD status.hex)

end Status

/-! ### Origins -/

/-- The layer that produced a status. -/
inductive Origin where
  /-- The client library on the host. -/
  | api
  /-- The connection between host and backend. -/
  | comms
  /-- The backend itself. -/
  | tee
  /-- The trusted service. -/
  | trustedApp
  /-- A layer that has no name. -/
  | unknown (number : UInt32)
  deriving DecidableEq, Repr

namespace Origin

/-- The layer that a number stands for. -/
def ofNumber (number : UInt32) : Origin :=
  if number = 1 then .api
  else if number = 2 then .comms
  else if number = 3 then .tee
  else if number = 4 then .trustedApp
  else .unknown number

def number : Origin → UInt32
  | .api => 1
  | .comms => 2
  | .tee => 3
  | .trustedApp => 4
  | .unknown number => number

/-- An origin has the number it was made of, known or not. -/
theorem number_ofNumber (number : UInt32) : (ofNumber number).number = number := by
  unfold ofNumber
  split <;> (try split) <;> (try split) <;> (try split) <;> simp_all [Origin.number]

def text : Origin → String
  | .api => "api"
  | .comms => "comms"
  | .tee => "tee"
  | .trustedApp => "trusted-app"
  | .unknown number => "unknown(" ++ toString number.toNat ++ ")"

def debug : Origin → String
  | .api => "Api"
  | .comms => "Comms"
  | .tee => "Tee"
  | .trustedApp => "TrustedApp"
  | .unknown number => Text.tagged "Unknown" (toString number.toNat)

end Origin

/-! ### Failures -/

structure Failure where
  status : Status
  origin : Origin
  deriving DecidableEq, Repr

namespace Failure

/-- A refusal by the client library on the host. -/
def api (status : Status) : Failure := ⟨status, .api⟩

/-- A refusal by the backend itself. -/
def tee (status : Status) : Failure := ⟨status, .tee⟩

/-- A refusal by the trusted service. -/
def trustedApp (status : Status) : Failure := ⟨status, .trustedApp⟩

def message (failure : Failure) : String :=
  "backend returned " ++ failure.status.text ++ " (origin " ++ failure.origin.text ++ ")"

def debug (failure : Failure) : String :=
  Text.record "TeeError" [("code", failure.status.debug), ("origin", failure.origin.debug)]

end Failure

/-- The stage at which no session came about. -/
inductive SessionStage where
  /-- No connection to the backend. -/
  | context
  /-- A connection, but no session with the service. -/
  | openSession
  deriving DecidableEq, Repr

def SessionStage.text : SessionStage → String
  | .context => "context initialization"
  | .openSession => "session open"

/-- A session that did not come about. -/
structure SessionFailure where
  stage : SessionStage
  cause : Failure
  deriving DecidableEq, Repr

namespace SessionFailure

def message (failure : SessionFailure) : String := failure.stage.text ++ " failed"

/-- The message and the messages of the causes behind it. -/
def chain (failure : SessionFailure) : List String := [failure.message, failure.cause.message]

end SessionFailure

end ObjectVault
