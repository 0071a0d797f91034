import ObjectVault.Backend.Directory
import ObjectVault.Client
import ObjectVault.CommandLine.Parser
import ObjectVault.Settings.File

/-!
# Running command lines

A request is carried out by one call of a client, and comes to one line of text or an error. Reading
needs nothing but the client; a request to put the contents of a file reads the file first.

`Arguments.execute` runs a whole command line over a file tree: it settles on the settings, and lets
the client work on the store that they name. `Report` is what the program then shows.
-/

namespace ObjectVault.CommandLine

/-- Why a command line fails. -/
inductive RunError where
  /-- No settings come from the file that the command line names. -/
  | badSettings (path : Bytes) (cause : SettingsFileError)
  /-- The file that holds the contents cannot be read. -/
  | badSource (path : Bytes) (cause : FileError)
  /-- There are no contents to put. -/
  | noContents
  | client (cause : ClientError)
  /-- Only a part of the object has been read. -/
  | truncated (key : String) (stored read : Nat)
  deriving DecidableEq

namespace RunError

/-- The message of an error, followed by the messages of its causes. -/
def chain : RunError → List String
  | .badSettings path cause => ("loading config " ++ Utf8.lossyText path) :: cause.chain
  | .badSource path cause => ["reading " ++ Utf8.lossyText path, cause.message]
  | .noContents => ["no payload given"]
  | .client cause => cause.chain
  | .truncated key stored read =>
      ["object '" ++ key ++ "' is truncated: " ++ toString stored ++ " bytes stored, "
        ++ toString read ++ " read"]

/-- All messages in one line. -/
def message (error : RunError) : String := String.intercalate ": " error.chain

end RunError

/-! ### Requests -/

def doneLine : String := "OK"

def missingLine : String := "NOT_FOUND"

/-- The line that shows an object: its contents as text, up to the first NUL. -/
def objectLine (key : String) (payload : Payload) : String :=
  doneLine ++ ":" ++ key ++ ":" ++ Utf8.lossyText payload.text

/-- What a read comes to. -/
def readLine (key : String) : ReadOutcome → Except RunError String
  | .found payload => .ok (objectLine key payload)
  | .notFound => .ok missingLine
  | .truncated part required => .error (.truncated key required part.length)

/-- What a deletion comes to. -/
def deleteLine : DeleteOutcome → String
  | .success => doneLine
  | .notFound => missingLine

namespace Source

/-- The contents that a source stands for; `read` reads files. Contents on the command line go before
those in a file. -/
def contents (read : Bytes → Except FileError Bytes) (source : Source) : Except RunError Bytes :=
  match source.data, source.path with
  | some data, _ => .ok data
  | none, some path => (read path).mapError (.badSource path)
  | none, none => .error .noContents

end Source

namespace Request

variable {σ κ ς : Type}

/-- Carries a request out; `read` reads files. -/
def perform (client : Client) (backend : Backend σ κ ς) (read : Bytes → Except FileError Bytes)
    (request : Request) : Action σ (Except RunError String) :=
  match request with
  | .put key source =>
      match source.contents read with
      | .error error => return .error error
      | .ok data => do
          match ← client.put backend key data with
          | .ok () => return .ok doneLine
          | .error error => return .error (.client error)
  | .get key => do
      match ← client.get backend key with
      | .ok outcome => return readLine key outcome
      | .error error => return .error (.client error)
  | .delete key => do
      match ← client.delete backend key with
      | .ok outcome => return .ok (deleteLine outcome)
      | .error error => return .error (.client error)

end Request

/-! ### Command lines -/

def storeOf (settings : Settings) : DirectoryStore := ⟨settings.storeDir, settings.service⟩

namespace Arguments

/-- The settings for a command line: those of the file that it names or the standard ones, with the
directory that it names. -/
def settings (tree : FileTree) (arguments : Arguments) : Except RunError Settings := do
  let settings ← match arguments.config with
    | some path => (Settings.load tree path).mapError (.badSettings path)
    | none => pure .standard
  return { settings with storeDir := arguments.storeDir.getD settings.storeDir }

def execute (arguments : Arguments) : Action FileTree (Except RunError String) := do
  let tree ← Action.get
  match arguments.settings tree with
  | .error error => return .error error
  | .ok settings =>
      Action.report (.storeSelected settings.storeDir settings.service)
      arguments.request.perform (.ofSettings settings) (storeOf settings).backend tree.read

/-- The paths of all files that a run with the given settings can touch. -/
def paths (settings : Settings) (arguments : Arguments) : List Bytes :=
  let key := Utf8.ofText arguments.request.key
  arguments.config.toList ++ arguments.request.sourcePath.toList
    ++ [DirectoryStore.objectPath (storeOf settings).serviceDirectory key]

/-- Whether an event is shown to the user: a warning or an error always, and a trace never. -/
def shows (arguments : Arguments) (event : Event) : Bool :=
  match event.level with
  | .trace => false
  | .debug | .info => arguments.verbose
  | .warn | .error => true

end Arguments

/-! ### What is shown -/

/-- What the program shows, and the status with which it ends. -/
structure Report where
  output : String
  errors : String
  status : Nat
  deriving DecidableEq

namespace Report

/-- The report on a run. -/
def ofResult : Except RunError String → Report
  | .ok line => ⟨line ++ "\n", "", 0⟩
  | .error error => ⟨"", "error: " ++ error.message ++ "\n" ++ Help.usageLine .program, 1⟩

/-- The report on a command line that asks for a text or has a fault. One with nothing on it is
answered with the help on the whole. For any other fault, only the usage line of the program is held:
what describes the fault before that line, and the hint at the help after it, are left out. -/
def ofHalt (halt : Halt) : Report :=
  match halt.text? with
  | some text => ⟨text, "", halt.exitStatus⟩
  | none =>
      let errors := if halt = .fault .nothing then Help.text .program else Help.usageLine .program
      ⟨"", errors, halt.exitStatus⟩

end Report

def run (words : List Bytes) : Action FileTree Report :=
  match Arguments.parse words with
  | .error halt => return .ofHalt halt
  | .ok arguments => return .ofResult (← arguments.execute)

end ObjectVault.CommandLine
