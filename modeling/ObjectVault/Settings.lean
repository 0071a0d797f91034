import ObjectVault.Command
import ObjectVault.ServiceId
import ObjectVault.Text.Quoted

/-!
# Settings

What a client is set up with: the service and the login of its sessions, what it makes of a read
that does not fit its buffer, and where a directory backend keeps its objects.
-/

namespace ObjectVault

/-- What becomes of a read for which the backend needs more room. -/
inductive ShortReadPolicy where
  /-- It is an answer of its own, with what has been read and the size needed. -/
  | report
  /-- It is an error. -/
  | fatal
  /-- It counts as found, with what has been read. -/
  | legacy
  deriving DecidableEq, Repr

namespace ShortReadPolicy

instance : Inhabited ShortReadPolicy := ⟨.report⟩

/-- The policies, the usual one first. -/
def all : List ShortReadPolicy := [.report, .fatal, .legacy]

theorem mem_all (policy : ShortReadPolicy) : policy ∈ all := by
  cases policy <;> decide

def name : ShortReadPolicy → String
  | .report => "report"
  | .fatal => "fatal"
  | .legacy => "legacy"

def debug : ShortReadPolicy → String
  | .report => "Report"
  | .fatal => "Fatal"
  | .legacy => "Legacy"

end ShortReadPolicy

/-- The settings of a client. The directory is a path as the file system takes it, in bytes. -/
structure Settings where
  service : ServiceId
  login : Login
  policy : ShortReadPolicy
  storeDir : Bytes
  deriving DecidableEq

namespace Settings

/-- The settings of a client that is told nothing. -/
def standard : Settings where
  service := .secureStorage
  login := .anyone
  policy := .report
  storeDir := Utf8.ofText "/var/lib/secstore"

instance : Inhabited Settings := ⟨standard⟩

def fieldNames : List String := ["ta_uuid", "login", "short_buffer_policy", "store_dir"]

def debug (settings : Settings) : String :=
  Text.record "ClientConfig"
    [("ta_uuid", settings.service.debug), ("login", settings.login.debug),
      ("short_buffer_policy", settings.policy.debug),
      ("store_dir", Text.quotedBytes settings.storeDir)]

end Settings

end ObjectVault
