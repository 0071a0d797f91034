import ObjectVault.Text.Quoted
import ObjectVault.ValueError

/-!
# Object keys

An object is stored under a key: a text of one to sixty-four bytes without a NUL. A key that exists
is always safe to send, because its type carries the three conditions; `ObjectKey.ofText` is the one
way to make one, and checks them in that order.

* `ofText_text` gives every key back from its text; `text_of_ofText` says that nothing is changed on
  the way.
* Keys are ordered by their bytes.
-/

namespace ObjectVault

/-- A text under which an object is stored. -/
structure ObjectKey where
  text : String
  nonempty : Utf8.ofText text ≠ []
  fits : (Utf8.ofText text).length ≤ maxKeyLength
  noNul : 0 ∉ Utf8.ofText text
  deriving DecidableEq

namespace ObjectKey

def bytes (key : ObjectKey) : Bytes := Utf8.ofText key.text

def length (key : ObjectKey) : Nat := key.bytes.length

/-- The key with the given text, or the first condition that the text fails. -/
def ofText (text : String) : Except ValueError ObjectKey :=
  if nonempty : Utf8.ofText text = [] then .error .emptyKey
  else if fits : (Utf8.ofText text).length ≤ maxKeyLength then
    if nul : 0 ∈ Utf8.ofText text then .error .keyContainsNul
    else .ok ⟨text, nonempty, fits, nul⟩
  else .error (.keyTooLong (Utf8.ofText text).length)

/-- A key is made again from its text. -/
theorem ofText_text (key : ObjectKey) : ofText key.text = .ok key := by
  simp [ofText, key.nonempty, key.fits, key.noNul]

theorem text_of_ofText {text : String} {key : ObjectKey} (made : ofText text = .ok key) :
    key.text = text := by
  grind [ofText]

/-- Keys are ordered by their bytes, the first difference deciding. -/
instance : Ord ObjectKey where
  compare a b := compare a.bytes b.bytes

def debug (key : ObjectKey) : String := Text.tagged "ObjectKey" (Text.quoted key.text)

end ObjectKey

end ObjectVault
