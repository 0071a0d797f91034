import ObjectVault.Client.Outcome
import ObjectVault.Session
import ObjectVault.Settings

/-!
# The client

A client reads, stores and deletes objects through a backend. Each call stands alone: it opens a
session, sends one command and releases the session, also when the command fails. `run` is that
frame, and the three `...Object` calls are what happens inside it; `get`, `put` and `delete` check
their arguments first, so that no backend hears of a bad key or of contents that are too large.
-/

namespace ObjectVault

/-- What a client is set up with. -/
structure Client where
  service : ServiceId
  login : Login
  policy : ShortReadPolicy
  deriving DecidableEq

namespace Client

variable {σ κ ς : Type}

def ofSettings (settings : Settings) : Client :=
  ⟨settings.service, settings.login, settings.policy⟩

/-- The client of someone who sets nothing. -/
def standard : Client := ofSettings .standard

/-- The diagnostic text of a client over a backend with the given text. -/
def debug (client : Client) (backend : String) : String :=
  Text.record "ObjectStoreClient"
    [("sessions", sessionManagerDebug backend client.service client.login),
      ("short_buffer_policy", client.policy.debug)]

/-! ### The slots of the three commands -/

/-- A key, and a buffer for as much as an object can hold. -/
def readOperation (key : ObjectKey) : Operation :=
  ⟨.input key.bytes, .ofBuffer (List.replicate objectCapacity 0), .absent, .absent⟩

/-- A key, and contents filled up with zeros. -/
def writeOperation (key : ObjectKey) (payload : Payload) : Operation :=
  ⟨.input key.bytes, .input payload.padded, .absent, .absent⟩

def deleteOperation (key : ObjectKey) : Operation :=
  ⟨.input key.bytes, .absent, .absent, .absent⟩

/-! ### Calls on keys and payloads -/

/-- Opens a session, makes one call over it, and releases it. Where no session comes about there is
nothing to release. -/
def run {α : Type} (client : Client) (backend : Backend σ κ ς) (command : Command) (key : ObjectKey)
    (call : Guard κ ς → Action σ (Except ClientError α)) : Action σ (Except ClientError α) := do
  match ← Guard.acquire backend client.service client.login with
  | .error failure =>
      Action.report (.sessionUnavailable command key failure)
      return .error (.session failure)
  | .ok guard =>
      let result ← call guard
      guard.close backend
      Action.report (.commandCompleted command key result.toBool)
      return result

/-- Reports that the backend refused a command, and makes an error of it. -/
def refused {α : Type} (command : Command) (key : ObjectKey) (failure : Failure) :
    Action σ (Except ClientError α) := do
  Action.report (.commandFailed command key failure)
  return .error (.backend command key failure)

/-- A payload that comes from a buffer, as the result of a call. -/
def received {α : Type} (bytes : Bytes) (result : Payload → α) : Except ClientError α :=
  match Payload.ofBytes bytes with
  | .ok payload => .ok (result payload)
  | .error cause => .error (.precondition cause)

/-- What the policy makes of a read for which the backend needs `required` bytes. -/
def shortRead (client : Client) (key : ObjectKey) (buffer : Bytes) (required : Nat) :
    Action σ (Except ClientError ReadOutcome) := do
  Action.report (.objectTooLarge key required)
  match client.policy with
  | .report => return received buffer fun part => .truncated part required
  | .legacy => return received buffer .found
  | .fatal => return .error (.truncated key required)

/-- What a read comes to, from the backend's answer, the buffer and the size it reported. -/
def readResult (client : Client) (key : ObjectKey) (answer : Service.Answer) (buffer : Bytes)
    (reported : Nat) : Action σ (Except ClientError ReadOutcome) :=
  match answer with
  | .ok () => return received (buffer.take reported) .found
  | .error failure =>
      if failure.status = .itemNotFound then return .ok .notFound
      else if failure.status = .shortBuffer then client.shortRead key buffer reported
      else refused .readRaw key failure

/-- Reads the object under a key. -/
def getObject (client : Client) (backend : Backend σ κ ς) (key : ObjectKey) :
    Action σ (Except ClientError ReadOutcome) :=
  client.run backend .readRaw key fun guard => do
    Action.report (.readEncoded key)
    let (answer, op) ← guard.invoke backend .readRaw (readOperation key)
    client.readResult key answer (op.second.buffer?.getD [])
      (op.second.size?.getD objectCapacity)

/-- Stores a payload under a key, in place of any earlier object. -/
def putObject (client : Client) (backend : Backend σ κ ς) (key : ObjectKey) (payload : Payload) :
    Action σ (Except ClientError Unit) :=
  client.run backend .writeRaw key fun guard => do
    Action.report (.writeEncoded key payload.length)
    let (answer, _) ← guard.invoke backend .writeRaw (writeOperation key payload)
    match answer with
    | .ok () => return .ok ()
    | .error failure => refused .writeRaw key failure

def deleteObject (client : Client) (backend : Backend σ κ ς) (key : ObjectKey) :
    Action σ (Except ClientError DeleteOutcome) :=
  client.run backend .delete key fun guard => do
    Action.report (.deleteEncoded key)
    let (answer, _) ← guard.invoke backend .delete (deleteOperation key)
    match answer with
    | .ok () => return .ok .success
    | .error failure =>
        if failure.status = .itemNotFound then return .ok .notFound
        else refused .delete key failure

/-! ### Calls on texts and bytes -/

/-- Goes on with the key of a text, or reports why it is none. -/
def withKey {α : Type} (text : String) (call : ObjectKey → Action σ (Except ClientError α)) :
    Action σ (Except ClientError α) :=
  match ObjectKey.ofText text with
  | .ok key => call key
  | .error cause => do
      Action.report (.keyRejected cause)
      return .error (.precondition cause)

def get (client : Client) (backend : Backend σ κ ς) (key : String) :
    Action σ (Except ClientError ReadOutcome) :=
  withKey key fun key => client.getObject backend key

def put (client : Client) (backend : Backend σ κ ς) (key : String) (data : Bytes) :
    Action σ (Except ClientError Unit) :=
  withKey key fun key =>
    match Payload.ofBytes data with
    | .ok payload => client.putObject backend key payload
    | .error cause => do
        Action.report (.payloadRejected key cause)
        return .error (.precondition cause)

def delete (client : Client) (backend : Backend σ κ ς) (key : String) :
    Action σ (Except ClientError DeleteOutcome) :=
  withKey key fun key => client.deleteObject backend key

end Client

end ObjectVault
