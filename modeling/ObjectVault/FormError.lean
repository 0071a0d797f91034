import ObjectVault.Text.Quoted
import ObjectVault.ValueError

/-!
# Values of the wrong form

Values of the library can stand in a document: in a JSON value, or in a TOML text. Where what stands
there has not the form that is asked for, the reason is a `FormError`; its message names what was
found and what was expected.
-/

namespace ObjectVault

/-- Why what stands in a document is not the value that is asked for. -/
inductive FormError where
  /-- A value of another kind. -/
  | wrongKind (found expected : String)
  /-- The right kind of value, but not one of those that are allowed. -/
  | wrongValue (found expected : String)
  /-- A list of the wrong length. -/
  | wrongLength (found : Nat) (expected : String)
  /-- A name that is not among the `known` ones. -/
  | unknownVariant (name : String) (known : List String)
  /-- A field that is not among the `known` ones. -/
  | unknownField (name : String) (known : List String)
  /-- A field that has been given before. -/
  | duplicateField (name : String)
  /-- A text that is no object key. -/
  | badKey (cause : ValueError)
  /-- A text that is no service identity. -/
  | badServiceId (cause : ServiceId.TextError)
  /-- Neither a name nor a table that could hold one. -/
  | noVariant
  /-- A table with no entry or more than one in place of a name. -/
  | entryCount (found : Nat)
  /-- A table or a list where only an empty one may stand. -/
  | notEmpty (kind : String)
  /-- Something else where only an empty table may stand. -/
  | notTable (found : String)
  deriving DecidableEq, Repr

namespace FormError

def ticked (name : String) : String := "`" ++ name ++ "`"

def oneOf (names : List String) : String :=
  "one of " ++ Text.commaSeparated (names.map ticked)

def message : FormError → String
  | .wrongKind found expected => "invalid type: " ++ found ++ ", expected " ++ expected
  | .wrongValue found expected => "invalid value: " ++ found ++ ", expected " ++ expected
  | .wrongLength found expected =>
      "invalid length " ++ toString found ++ ", expected " ++ expected
  | .unknownVariant name known => "unknown variant " ++ ticked name ++ ", expected " ++ oneOf known
  | .unknownField name known => "unknown field " ++ ticked name ++ ", expected " ++ oneOf known
  | .duplicateField name => "duplicate field " ++ ticked name
  | .badKey cause => cause.message
  | .badServiceId cause => "UUID parsing failed: " ++ cause.message
  | .noVariant => "wanted string or table"
  | .entryCount 0 => "wanted exactly 1 element, found 0 elements"
  | .entryCount _ => "wanted exactly 1 element, more than 1 element"
  | .notEmpty kind => "expected empty " ++ kind
  | .notTable found => "expected table, found " ++ found

end FormError

end ObjectVault
