import ObjectVault.FormError
import ObjectVault.Number.Shortest

/-!
# TOML values

What a TOML text denotes: keys and values, with the stretches of the text that they come from. A
stretch is measured from the end of the text, so that what is left to read is all that a reader needs
to know about where it is.
-/

namespace ObjectVault.Toml

/-- A stretch of a text: how many characters are left where it starts, and where it stops. -/
structure Span where
  start : Nat
  stop : Nat
  deriving DecidableEq, Repr

/-- A key, and where it stands. -/
structure Key where
  text : String
  span : Span
  deriving DecidableEq, Repr

/-- How a table came about. -/
inductive TableKind where
  /-- By a header that names it. -/
  | header
  /-- By the header of a table inside it. -/
  | implied
  /-- By a key with dots. -/
  | dotted
  /-- As a value in braces, to which nothing can be added. -/
  | inline
  deriving DecidableEq, Repr

/-- A key with what it is bound to. A table without a header of its own stands nowhere in
particular. -/
structure Entry (α : Type) where
  key : Key
  span : Option Span
  value : α

/-- Something in a list, and where it stands. -/
structure Item (α : Type) where
  span : Span
  value : α

/-- A TOML value. Of a date or a time nothing is kept but that it is one. -/
inductive Value where
  | string (text : String)
  | integer (value : Int)
  | float (value : Binary64)
  | boolean (value : Bool)
  | datetime
  | array (items : List (Item Value))
  /-- The tables of headers in double brackets. -/
  | tables (elements : List (Item (List (Entry Value))))
  | table (kind : TableKind) (entries : List (Entry Value))
  deriving Inhabited

/-- The contents of a table, in the order of the text. -/
abbrev Entries := List (Entry Value)

namespace Value

def floatLayout : Binary64.Layout := ⟨fun _ => true, false⟩

/-- What a value is called where another one is expected. -/
def found : Value → String
  | .string text => "string " ++ Text.quoted text
  | .integer value => "integer " ++ FormError.ticked (toString value)
  | .float value => "floating point " ++ FormError.ticked (value.text floatLayout)
  | .boolean value => "boolean " ++ FormError.ticked (if value then "true" else "false")
  | .datetime | .table .. => "map"
  | .array _ | .tables _ => "sequence"

def kindName : Value → String
  | .string _ => "string"
  | .integer _ => "integer"
  | .float _ => "float"
  | .boolean _ => "boolean"
  | .datetime => "datetime"
  | .array _ | .tables _ => "array"
  | .table .. => "table"

/-- The values in a list of either kind. -/
def items? : Value → Option (List (Item Value))
  | .array items => some items
  | .tables elements => some (elements.map fun element => ⟨element.span, .table .header element.value⟩)
  | _ => none

end Value

end ObjectVault.Toml
