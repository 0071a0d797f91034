import ObjectVault.Settings
import ObjectVault.Toml.Document
import ObjectVault.Toml.Excerpt

/-!
# Settings in TOML

Settings are written as four bindings of strings. A document to read them from may bind any of the
four, in any order, and nothing else; what it leaves out is as in the standard settings. A name such
as that of a login stands in a string, or as the one key of a table that binds it to nothing; the
identity of the service stands in a string, or as a list of its bytes.

The first entry that is not as it should be is what an error is about.
-/

namespace ObjectVault

inductive SettingsError where
  /-- The text is not TOML. -/
  | notToml
  /-- An entry at a stretch of the text is not as it should be. -/
  | badEntry (text : List Char) (span : Toml.Span) (cause : FormError)
  deriving DecidableEq

namespace SettingsError

def detail : SettingsError → String
  | .notToml => "not a TOML document"
  | .badEntry text span cause => Toml.excerpt text span cause.message

def message (error : SettingsError) : String := "configuration error: " ++ error.detail

end SettingsError

namespace Toml

/-- Why an entry is not as it should be, and which stretch of the text is at fault if not all of it. -/
structure Fault where
  span : Option Span
  cause : FormError

namespace Value

/-- A string; `expected` is what the message calls for. -/
def readText (expected : String) : Value → Except FormError String
  | .string text => .ok text
  | other => .error (.wrongKind other.found expected)

/-- One of `values`, by its name. -/
def readName {α : Type} (name : α → String) (values : List α) (found : String) :
    Except FormError α :=
  match values.find? fun value => name value == found with
  | some value => .ok value
  | none => .error (.unknownVariant found (values.map name))

def readByte (value : Value) : Except FormError UInt8 :=
  match value with
  | .integer n =>
      if 0 ≤ n ∧ n < UInt8.size then .ok (UInt8.ofNat n.toNat)
      else .error (.wrongValue value.found "u8")
  | other => .error (.wrongKind other.found "u8")

/-- A service identity: its text, or a list that starts with its bytes. -/
def readServiceId (value : Value) : Except Fault ServiceId := do
  let expected := "a formatted UUID string"
  match value.items? with
  | none =>
      let text ← (value.readText expected).mapError (⟨none, ·⟩)
      (ServiceId.ofText text).mapError (⟨none, .badServiceId ·⟩)
  | some items =>
      let bytes ← (items.take ServiceId.size).mapM fun item =>
        item.value.readByte.mapError (⟨some item.span, ·⟩)
      if size : bytes.length = ServiceId.size then return ⟨bytes, size⟩
      throw ⟨none, .wrongLength bytes.length expected⟩

/-- Nothing, which is an empty table or an empty list. -/
def readEmpty : Value → Except FormError Unit
  | .table _ [] | .array [] | .tables [] => .ok ()
  | .table _ (_ :: _) | .array (_ :: _) => .error (.notEmpty "table")
  | .tables (_ :: _) => .error (.notEmpty "array")
  | other => .error (.notTable other.kindName)

/-- One of `values`, by its name, which stands in a string or as the one key of a table. -/
def readNamed {α : Type} (name : α → String) (values : List α) : Value → Except Fault α
  | .string found => (readName name values found).mapError (⟨none, ·⟩)
  | .table _ [entry] => do
      let value ← (readName name values entry.key.text).mapError (⟨some entry.key.span, ·⟩)
      (entry.value.readEmpty).mapError (⟨entry.span, ·⟩)
      return value
  | .table _ entries => .error ⟨none, .entryCount entries.length⟩
  | _ => .error ⟨none, .noVariant⟩

end Value

end Toml

namespace Settings

open Toml (Entry Fault Value)

/-! ### Reading -/

def setToml (settings : Settings) (entry : Entry Value) : Except Fault Settings := do
  match entry.key.text with
  | "ta_uuid" => return { settings with service := ← entry.value.readServiceId }
  | "login" => return { settings with login := ← entry.value.readNamed Login.name Login.all }
  | "short_buffer_policy" =>
      return { settings with
        policy := ← entry.value.readNamed ShortReadPolicy.name ShortReadPolicy.all }
  | "store_dir" =>
      let path ← (entry.value.readText "path string").mapError (⟨none, ·⟩)
      return { settings with storeDir := Utf8.ofText path }
  | name => throw ⟨some entry.key.span, .unknownField name fieldNames⟩

/-- Puts what one entry of a text binds in place. An error that names no stretch is about the whole
value, or about the key where the value stands nowhere in particular. -/
def setEntry (text : List Char) (settings : Settings) (entry : Entry Value) :
    Except SettingsError Settings :=
  (setToml settings entry).mapError fun fault =>
    .badEntry text ((fault.span.or entry.span).getD entry.key.span) fault.cause

def ofToml (text : String) : Except SettingsError Settings :=
  match Toml.Document.read text.toList with
  | none => .error .notToml
  | some entries => entries.foldlM (setEntry text.toList) standard

/-! ### Writing -/

/-- A line that binds a key to a string. -/
def bindingLine (name : String) (value : List Char) : List Char :=
  name.toList ++ " = ".toList ++ Toml.write value ++ ['\n']

/-- The settings as a TOML text, which exists where the directory is text. -/
def toToml? (settings : Settings) : Option String := do
  let storeDir ← Utf8.decode? settings.storeDir
  return String.ofList
    (bindingLine "ta_uuid" settings.service.text.toList
      ++ bindingLine "login" settings.login.name.toList
      ++ bindingLine "short_buffer_policy" settings.policy.name.toList
      ++ bindingLine "store_dir" storeDir)

end Settings

end ObjectVault
