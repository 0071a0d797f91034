import ObjectVault.FormError
import ObjectVault.Number.Shortest

/-!
# JSON values

The values of the library have a JSON form: a function `json` writes it, and `ofJson` beside it reads
it and more. This module holds the values and what the readers share; integers and floating point
numbers stay apart, since no reader takes one for the other.
-/

namespace ObjectVault

/-- A JSON value. The fields of an object stand in the order in which they are read. -/
inductive Json where
  | null
  | bool (value : Bool)
  | integer (value : Int)
  | float (value : Binary64)
  | string (text : String)
  | array (items : List Json)
  | object (fields : List (String × Json))
  deriving Inhabited

namespace Json

/-- Floating point numbers are written without an exponent while their point stands behind at most
sixteen digits, or before at most four zeros. -/
def floatLayout : Binary64.Layout := ⟨fun point => -5 < point && point ≤ 16, true⟩

/-- What a value is called in a message. -/
def found : Json → String
  | .null => "null"
  | .bool value => "boolean " ++ FormError.ticked (if value then "true" else "false")
  | .integer value => "integer " ++ FormError.ticked (toString value)
  | .float value => "floating point " ++ FormError.ticked (value.text floatLayout)
  | .string text => "string " ++ Text.quoted text
  | .array _ => "sequence"
  | .object _ => "map"

/-! ### Readers -/

def readText (expected : String) : Json → Except FormError String
  | .string text => .ok text
  | other => .error (.wrongKind other.found expected)

def readWord (value : Json) : Except FormError UInt32 :=
  match value with
  | .integer n =>
      if 0 ≤ n ∧ n < UInt32.size then .ok (UInt32.ofNat n.toNat)
      else .error (.wrongValue value.found "u32")
  | other => .error (.wrongKind other.found "u32")

def readUnit : Json → Except FormError Unit
  | .null => .ok ()
  | other => .error (.wrongKind other.found "unit")

/-- One of `values`, by its name, which stands alone or with a content. -/
def readVariant {α : Type} (name : α → String) (values : List α) (value : Json) :
    Except FormError (α × Option Json) :=
  let known (found : String) (content : Option Json) :=
    match values.find? fun value => name value == found with
    | some value => .ok (value, content)
    | none => .error (.unknownVariant found (values.map name))
  match value with
  | .string found => known found none
  | .object [(found, content)] => known found (some content)
  | .object _ => .error (.wrongValue value.found "map with a single key")
  | other => .error (.wrongKind other.found "string or map")

/-- One of `values`, by its name, which stands alone or with nothing as its content. -/
def readNamed {α : Type} (name : α → String) (values : List α) (value : Json) :
    Except FormError α := do
  match ← readVariant name values value with
  | (value, none) => return value
  | (value, some content) =>
      content.readUnit
      return value

end Json

end ObjectVault
