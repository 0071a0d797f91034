import ObjectVault.ServiceId

/-!
# Values that cannot be built

Why a key, a content or a service identity is refused before any backend hears of it. The limits
that the wording mentions are the library's own.
-/

namespace ObjectVault

/-- The longest object key, in bytes. -/
def maxKeyLength : Nat := 64

/-- The size in bytes of every object that travels to or from a trusted service. -/
def objectCapacity : Nat := 2000

/-- Why a value cannot be built; `length` is its size in bytes. -/
inductive ValueError where
  | emptyKey
  | keyTooLong (length : Nat)
  | keyContainsNul
  | payloadTooLarge (length : Nat)
  | badServiceId (cause : ServiceId.TextError)
  deriving DecidableEq, Repr

def ValueError.message : ValueError → String
  | .emptyKey => "object key must not be empty"
  | .keyTooLong length =>
      "object key is " ++ toString length ++ " bytes, must be a maximum of " ++ toString maxKeyLength
  | .keyContainsNul => "object key must not contain a NUL byte"
  | .payloadTooLarge length =>
      "payload is " ++ toString length ++ " bytes, object capacity is " ++ toString objectCapacity
  | .badServiceId cause => "invalid trusted service uuid: " ++ cause.message

end ObjectVault
