import ObjectVault.Command
import ObjectVault.FileTree.Path
import ObjectVault.ObjectKey
import ObjectVault.Operation
import ObjectVault.Payload
import ObjectVault.Status

/-!
# Events

What the library reports while it works. An event holds the values it is about; its level, its
wording and its fields as text are functions of it. No event holds the contents of an object.
-/

namespace ObjectVault

inductive Level where
  | trace
  | debug
  | info
  | warn
  | error
  deriving DecidableEq, Repr

def Level.text : Level → String
  | .trace => "TRACE"
  | .debug => "DEBUG"
  | .info => "INFO"
  | .warn => "WARN"
  | .error => "ERROR"

/-- What a directory backend was doing when the file system refused. -/
inductive StorageAction where
  | read
  | create
  | write
  | persist
  | remove
  deriving DecidableEq, Repr

def StorageAction.text : StorageAction → String
  | .read => "read"
  | .create => "create"
  | .write => "write"
  | .persist => "persist"
  | .remove => "remove"

inductive Event where
  /-- A session with a service came about. -/
  | sessionOpened (service : ServiceId) (login : Login)
  /-- A session and its connection were released. -/
  | sessionClosed
  /-- A command is about to be sent. -/
  | invoking (command : Command) (kinds : List SlotKind)
  /-- A key was refused. -/
  | keyRejected (cause : ValueError)
  /-- The contents for a key were refused. -/
  | payloadRejected (key : ObjectKey) (cause : ValueError)
  /-- No session came about for a command. -/
  | sessionUnavailable (command : Command) (key : ObjectKey) (failure : SessionFailure)
  | readEncoded (key : ObjectKey)
  /-- The length is that of the contents without padding. -/
  | writeEncoded (key : ObjectKey) (length : Nat)
  | deleteEncoded (key : ObjectKey)
  /-- The backend needs more room than the read buffer has. -/
  | objectTooLarge (key : ObjectKey) (required : Nat)
  /-- The backend refused a command. -/
  | commandFailed (command : Command) (key : ObjectKey) (failure : Failure)
  /-- A command is over, its session released. -/
  | commandCompleted (command : Command) (key : ObjectKey) (ok : Bool)
  /-- The directory of a service cannot be made. -/
  | directoryUnavailable (path : Bytes) (cause : FileError)
  /-- The file system refused an action on an object. -/
  | storageFailed (action : StorageAction) (cause : FileError)
  /-- An object's file is in place. -/
  | objectStored (path : Bytes) (length : Nat)
  /-- A command line has settled on a store. -/
  | storeSelected (directory : Bytes) (service : ServiceId)
  deriving DecidableEq

namespace Event

def level : Event → Level
  | .invoking .. | .readEncoded .. | .writeEncoded .. | .deleteEncoded .. => .trace
  | .sessionOpened .. | .sessionClosed | .commandCompleted .. | .objectStored .. | .storeSelected .. =>
      .debug
  | .keyRejected .. | .payloadRejected .. | .sessionUnavailable .. | .objectTooLarge ..
  | .commandFailed .. | .directoryUnavailable .. | .storageFailed .. => .warn

def message : Event → String
  | .sessionOpened .. => "session opened"
  | .sessionClosed => "session closed"
  | .invoking .. => "invoking command"
  | .keyRejected .. => "rejected object key"
  | .payloadRejected .. => "rejected payload"
  | .sessionUnavailable .. => "session unavailable"
  | .readEncoded .. => "READ_RAW encoded"
  | .writeEncoded .. => "WRITE_RAW encoded"
  | .deleteEncoded .. => "DELETE encoded"
  | .objectTooLarge .. => "object larger than read buffer"
  | .commandFailed .. => "command failed"
  | .commandCompleted .. => "command completed"
  | .directoryUnavailable .. => "cannot prepare backend directory"
  | .storageFailed .. => "simulated storage failure"
  | .objectStored .. => "object stored"
  | .storeSelected .. => "using file-backed store"

/-- The status and the layer of a failure, as fields. -/
def failureFields (failure : Failure) : List (String × String) :=
  [("code", failure.status.text), ("origin", failure.origin.text)]

/-- The names and the texts of an event's values. What the file system says about a refusal is left to
`line`. -/
def fields : Event → List (String × String)
  | .sessionOpened service login => [("uuid", service.text), ("login", login.debug)]
  | .sessionClosed => []
  | .invoking command kinds =>
      [("command", command.name), ("params", Text.list (kinds.map SlotKind.debug))]
  | .keyRejected cause => [("error", cause.message)]
  | .payloadRejected key cause => [("key", key.text), ("error", cause.message)]
  | .sessionUnavailable command key failure =>
      [("command", command.name), ("key", key.text), ("stage", failure.stage.text)]
        ++ failureFields failure.cause
  | .readEncoded key | .deleteEncoded key => [("key", key.text)]
  | .writeEncoded key length => [("key", key.text), ("bytes", toString length)]
  | .objectTooLarge key required =>
      [("key", key.text), ("required", toString required), ("capacity", toString objectCapacity)]
  | .commandFailed command key failure =>
      [("command", command.name), ("key", key.text)] ++ failureFields failure
  | .commandCompleted command key ok =>
      [("command", command.name), ("key", key.text), ("ok", if ok then "true" else "false")]
  | .directoryUnavailable path _ => [("path", Utf8.lossyText path)]
  | .storageFailed action _ => [("action", action.text)]
  | .objectStored path length => [("path", Utf8.lossyText path), ("bytes", toString length)]
  | .storeSelected directory service =>
      [("store_dir", Utf8.lossyText directory), ("ta", service.text)]

/-- The refusal of the file system that an event tells of. -/
def refusal? : Event → Option FileError
  | .directoryUnavailable _ cause | .storageFailed _ cause => some cause
  | _ => none

/-- The event in one line: its level, its message, its fields, and what the file system said. -/
def line (event : Event) : String :=
  let refusal := event.refusal?.map fun cause => ("error", cause.message)
  String.intercalate " " (event.level.text :: event.message
    :: (event.fields ++ refusal.toList).map fun field => field.1 ++ "=" ++ field.2)

end Event

end ObjectVault
