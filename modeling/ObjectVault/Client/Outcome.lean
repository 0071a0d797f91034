import ObjectVault.ObjectKey
import ObjectVault.Payload
import ObjectVault.Command
import ObjectVault.Status

/-!
# What a client call comes to

Absence of an object is an expected answer; so is a read that did not fit, under the policy that
reports it. Everything else that goes wrong is an error, which names its cause.
-/

namespace ObjectVault

/-! ### Answers -/

inductive ReadOutcome where
  /-- The object, cut to the size that the service reported. -/
  | found (payload : Payload)
  /-- Nothing is stored under the key. -/
  | notFound
  /-- The object needs `required` bytes; `part` is the read buffer as the backend left it. -/
  | truncated (part : Payload) (required : Nat)
  deriving DecidableEq

namespace ReadOutcome

/-- The payload of a read that found all of it. -/
def found? : ReadOutcome → Option Payload
  | .found payload => some payload
  | _ => none

def isFound : ReadOutcome → Bool
  | .found _ => true
  | _ => false

def isNotFound : ReadOutcome → Bool
  | .notFound => true
  | _ => false

def debug : ReadOutcome → String
  | .found payload => Text.tagged "Found" payload.debug
  | .notFound => "NotFound"
  | .truncated part required =>
      Text.record "Truncated" [("partial", part.debug), ("required", toString required)]

end ReadOutcome

inductive DeleteOutcome where
  | success
  /-- Nothing was stored under the key. -/
  | notFound
  deriving DecidableEq, Repr

def DeleteOutcome.debug : DeleteOutcome → String
  | .success => "Success"
  | .notFound => "NotFound"

/-! ### Errors -/

inductive ClientError where
  /-- The key or the contents were refused before any backend heard of them. -/
  | precondition (cause : ValueError)
  /-- No session with the service came about. -/
  | session (cause : SessionFailure)
  /-- The service refused the command. -/
  | backend (command : Command) (key : ObjectKey) (failure : Failure)
  /-- The object needs `required` bytes, more than the read buffer holds. -/
  | truncated (key : ObjectKey) (required : Nat)
  deriving DecidableEq

namespace ClientError

/-- The message of an error, followed by the messages of its causes. -/
def chain : ClientError → List String
  | .precondition cause => ["precondition failed", cause.message]
  | .session cause => "cannot open a session with the trusted service" :: cause.chain
  | .backend command key failure =>
      ["command " ++ command.name ++ " on '" ++ key.text ++ "' failed with " ++ failure.status.text
        ++ " (origin " ++ failure.origin.text ++ ")"]
  | .truncated key required =>
      ["object '" ++ key.text ++ "' needs " ++ toString required ++ " bytes, read buffer holds "
        ++ toString objectCapacity]

/-- Whether a call failed before any backend heard of it. -/
def isPrecondition : ClientError → Bool
  | .precondition _ => true
  | _ => false

/-- The status behind an error, if a backend gave one. -/
def status? : ClientError → Option Status
  | .precondition _ => none
  | .session cause => some cause.cause.status
  | .backend _ _ failure => some failure.status
  | .truncated _ _ => some .shortBuffer

end ClientError

end ObjectVault
