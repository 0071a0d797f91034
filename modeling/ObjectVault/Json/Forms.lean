import ObjectVault.Command
import ObjectVault.Json
import ObjectVault.ObjectKey
import ObjectVault.Settings
import ObjectVault.Status

/-!
# JSON forms of values

A key and a service identity stand in JSON as their text, a status as its number, an origin, a
command, a login and a policy as a name. Settings are an object with four fields, of which any may be
missing and none may be given twice, or the list of the four values, which may end early.
-/

namespace ObjectVault

/-! ### Keys, identities and statuses -/

namespace ObjectKey

def json (key : ObjectKey) : Json := .string key.text

def ofJson (value : Json) : Except FormError ObjectKey := do
  (ofText (← value.readText "a string")).mapError .badKey

end ObjectKey

namespace ServiceId

def json (id : ServiceId) : Json := .string id.text

def ofJson (value : Json) : Except FormError ServiceId := do
  (ofText (← value.readText "a formatted UUID string")).mapError .badServiceId

end ServiceId

namespace Status

def json (status : Status) : Json := .integer status.code.toNat

def ofJson (value : Json) : Except FormError Status := return ⟨← value.readWord⟩

end Status

/-! ### Values with names -/

namespace Origin

/-- The names of the origins; the last one takes a number. -/
def variantNames : List String := ["Api", "Comms", "Tee", "TrustedApp", "Unknown"]

def json : Origin → Json
  | .api => .string "Api"
  | .comms => .string "Comms"
  | .tee => .string "Tee"
  | .trustedApp => .string "TrustedApp"
  | .unknown number => .object [("Unknown", .integer number.toNat)]

def ofVariantName? : String → Option Origin
  | "Api" => some .api
  | "Comms" => some .comms
  | "Tee" => some .tee
  | "TrustedApp" => some .trustedApp
  | _ => none

def ofJson (value : Json) : Except FormError Origin := do
  let (name, content) ← Json.readVariant id variantNames value
  match ofVariantName? name, content with
  | some origin, none => return origin
  | some origin, some content =>
      content.readUnit
      return origin
  | none, some content => return .unknown (← content.readWord)
  | none, none => throw (.wrongKind "unit variant" "newtype variant")

end Origin

namespace Command

def json (command : Command) : Json := .string command.debug

def ofJson (value : Json) : Except FormError Command := Json.readNamed debug all value

end Command

namespace Login

def json (login : Login) : Json := .string login.name

def ofJson (value : Json) : Except FormError Login := Json.readNamed name all value

end Login

namespace ShortReadPolicy

def json (policy : ShortReadPolicy) : Json := .string policy.name

def ofJson (value : Json) : Except FormError ShortReadPolicy := Json.readNamed name all value

end ShortReadPolicy

/-! ### Settings -/

namespace Settings

/-- The JSON form of settings, which exists where the directory is text. -/
def json? (settings : Settings) : Option Json := do
  let storeDir ← Utf8.text? settings.storeDir
  return .object [
    ("ta_uuid", settings.service.json), ("login", settings.login.json),
    ("short_buffer_policy", settings.policy.json), ("store_dir", .string storeDir)]

def setJson (settings : Settings) (field : String × Json) : Except FormError Settings := do
  let (name, value) := field
  match name with
  | "ta_uuid" => return { settings with service := ← ServiceId.ofJson value }
  | "login" => return { settings with login := ← Login.ofJson value }
  | "short_buffer_policy" => return { settings with policy := ← ShortReadPolicy.ofJson value }
  | "store_dir" => return { settings with storeDir := Utf8.ofText (← value.readText "path string") }
  | _ => throw (.unknownField name fieldNames)

/-- Puts the fields of an object in place one after another. A field that has been `seen` is refused
before its value is looked at. -/
def setFields (settings : Settings) (seen : List String) :
    List (String × Json) → Except FormError Settings
  | [] => .ok settings
  | field :: rest =>
      if field.1 ∈ seen then .error (.duplicateField field.1)
      else do setFields (← settings.setJson field) (field.1 :: seen) rest

/-- The settings in a JSON value. What it leaves out is as in the standard settings. -/
def ofJson (value : Json) : Except FormError Settings :=
  match value with
  | .object fields => standard.setFields [] fields
  | .array items => do
      let settings ← (fieldNames.zip items).foldlM setJson standard
      if fieldNames.length < items.length then
        throw (.wrongLength items.length "fewer elements in array")
      return settings
  | other => .error (.wrongKind other.found "struct ClientConfig")

end Settings

end ObjectVault
