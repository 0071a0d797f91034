import ObjectVault.FileTree
import ObjectVault.Settings.Toml

/-!
# Settings in a file

A settings file is a file of text that holds settings in TOML. It can fail to be read, or to hold any.
-/

namespace ObjectVault

/-- Why no settings come from a file. -/
inductive SettingsFileError where
  | unreadable (cause : FileError)
  | unsuitable (cause : SettingsError)
  deriving DecidableEq

/-- The message of an error, followed by the messages of its causes. -/
def SettingsFileError.chain : SettingsFileError → List String
  | .unreadable cause => ["I/O error", cause.message]
  | .unsuitable cause => [cause.message]

def Settings.ofFile (text : Except FileError String) : Except SettingsFileError Settings := do
  (Settings.ofToml (← text.mapError .unreadable)).mapError .unsuitable

def Settings.load (tree : FileTree) (path : Bytes) : Except SettingsFileError Settings :=
  ofFile (tree.readText path)

end ObjectVault
