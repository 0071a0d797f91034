import ObjectVault.Text.Quoted

/-!
# Service identities

A trusted service is known by sixteen bytes. Their text is thirty-two hexadecimal digits in groups
of 8, 4, 4, 4 and 12 with hyphens between; reading also accepts the digits without hyphens, the
grouped form in braces, and the grouped form after `urn:uuid:`.

A text that is none of these is refused with the first fault that a scan from the left finds:
a character that no form allows, a wrong count of groups, a group of the wrong length, or a wrong
length over all.
-/

namespace ObjectVault

def ServiceId.size : Nat := 16

/-- The identity of a trusted service. -/
structure ServiceId where
  bytes : Bytes
  length_bytes : bytes.length = ServiceId.size
  deriving DecidableEq

namespace ServiceId

/-- The identity that the secure storage service is built with. -/
def secureStorage : ServiceId :=
  ⟨[0xf4, 0xe7, 0x50, 0xbb, 0x14, 0x37, 0x4f, 0xbf, 0x87, 0x85, 0x8d, 0x35, 0x80, 0xc3, 0x49, 0x94],
    rfl⟩

instance : Inhabited ServiceId := ⟨secureStorage⟩

/-! ### Writing -/

def groupLengths : List Nat := [8, 4, 4, 4, 12]

/-- Digits cut into groups of the given lengths, with hyphens between. -/
def grouped : List Nat → List Char → List Char
  | [], _ => []
  | [n], digits => digits.take n
  | n :: rest, digits => digits.take n ++ '-' :: grouped rest (digits.drop n)

/-- The canonical text of an identity: lower-case digits in groups. -/
def text (id : ServiceId) : String := String.ofList (grouped groupLengths (Bytes.hexDigits id.bytes))

def debug (id : ServiceId) : String := Text.tagged "TaUuid" id.text

/-! ### Why a text is refused -/

inductive TextError where
  | badCharacter (found : Char) (index : Nat)
  | badLength (found : Nat)
  | badGroupCount (found : Nat)
  | badGroupLength (group expected found : Nat)
  deriving DecidableEq, Repr

/-- The wording of a refusal. -/
def TextError.message : TextError → String
  | .badCharacter c index =>
      "invalid character: found `" ++ String.singleton c ++ "` at " ++ toString index
  | .badLength found => "invalid length: found " ++ toString found
  | .badGroupCount found => "invalid group count: expected 5, found " ++ toString found
  | .badGroupLength group expected found =>
      "invalid group length in group " ++ toString group ++ ": expected " ++ toString expected
        ++ ", found " ++ toString found

def longestForm : Nat := 45

/-- The first character that is neither a hexadecimal digit nor a hyphen, with its index. Every
character before it is one byte long. -/
def badCharacter? (chars : List Char) : Option (Char × Nat) :=
  chars.zipIdx.find? fun numbered => (Bytes.hexValue? numbered.1).isNone && numbered.1 != '-'

def hyphens (chars : List Char) : List Nat :=
  chars.zipIdx.filterMap fun numbered => if numbered.1 = '-' then some numbered.2 else none

/-- The first group whose hyphen is not where the lengths put it, among those still to be checked;
where all hyphens are right the last group is at fault. `start` is where the group begins and
`total` the length that the last group is measured by. -/
def badGroup (total group start : Nat) : (lengths hyphens : List Nat) → TextError
  | n :: lengths, hyphen :: hyphens =>
      if hyphen = start + n then badGroup total (group + 1) (start + n + 1) lengths hyphens
      else .badGroupLength group n (hyphen - start)
  | n :: _, [] => .badGroupLength group n (total - start)
  | [], _ => .badGroupCount group

/-- The fault of `chars`, which stand at `offset` in a text of `total` bytes; `plain` says that
they might have been digits without hyphens. -/
def fault (chars : List Char) (offset total : Nat) (plain : Bool) : TextError :=
  match badCharacter? chars with
  | some (c, index) => .badCharacter c (offset + index)
  | none =>
      let found := hyphens chars
      if found.isEmpty && plain then .badLength total
      else if found.length ≠ 4 then .badGroupCount (found.length + 1)
      else badGroup total 0 0 groupLengths found

/-! ### Reading -/

/-- Digits without the hyphens between groups of the given lengths. -/
def ungrouped? : List Nat → List Char → Option (List Char)
  | [], _ => none
  | [n], chars => if chars.length = n then some chars else none
  | n :: rest, chars =>
      match chars.drop n with
      | '-' :: tail => (ungrouped? rest tail).map (chars.take n ++ ·)
      | _ => none

def ofDigits? (digits : List Char) : Option ServiceId := do
  let bytes ← Bytes.ofHexDigits? digits
  if length : bytes.length = size then some ⟨bytes, length⟩ else none

/-- The identity that digits in groups spell. -/
def ofGrouped? (chars : List Char) : Option ServiceId :=
  (ungrouped? groupLengths chars).bind ofDigits?

/-- What stands between braces. -/
def unbraced? : List Char → Option (List Char)
  | '\x7b' :: rest => if rest.getLast? = some '\x7d' then some rest.dropLast else none
  | _ => none

/-- What stands after `urn:uuid:` in either case. -/
def afterUrn? (chars : List Char) : Option (List Char) :=
  if (chars.take 9).map Char.toLower = "urn:uuid:".toList then some (chars.drop 9) else none

/-- The identity that digits in groups spell, or their fault. -/
def readGrouped (chars : List Char) : Except TextError ServiceId :=
  match ofGrouped? chars with
  | some id => .ok id
  | none => .error (fault chars 0 (Utf8.encode chars).length false)

/-- The fault of a text that is taken for no form with groups. -/
def misshapen (chars : List Char) (total : Nat) : TextError :=
  if longestForm < total then .badLength total
  else match unbraced? chars, afterUrn? chars with
    | some inner, _ => fault inner 1 total false
    | none, some inner => fault inner 9 total false
    | none, none => fault chars 0 total true

/-- The identity that a sequence of characters spells, or why it spells none. The length in bytes
decides which form is tried. -/
def read (chars : List Char) : Except TextError ServiceId :=
  let total := (Utf8.encode chars).length
  match total, unbraced? chars, afterUrn? chars with
  | 32, _, _ =>
      match ofDigits? chars with
      | some id => .ok id
      | none => .error (misshapen chars total)
  | 36, _, _ => readGrouped chars
  | 38, some inner, _ => readGrouped inner
  | 45, _, some inner => readGrouped inner
  | _, _, _ => .error (misshapen chars total)

/-- The identity that a text spells, or why it spells none. -/
def ofText (text : String) : Except TextError ServiceId := read text.toList

end ServiceId

end ObjectVault
