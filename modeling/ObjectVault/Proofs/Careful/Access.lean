import ObjectVault.ObjectKey.Namespace
import ObjectVault.Proofs.Client.Replies
import ObjectVault.Proofs.Results
import ObjectVault.Proofs.Text.Hexadecimal
import ObjectVault.Proofs.Text.Utf8

/-!
# Access that can break

The library takes the start of a sequence and writes over the start of a buffer by operations that
always come to something. Here the same is done carefully: a part that is not there cannot be taken,
and only a sequence of the same length can be copied into another. `Breach` says what breaks.

* `cut_eq_ok_iff`, `copyToFront_eq_ok_iff`: when a careful operation succeeds, and that it then comes to
  what the library's operation does.
* `ObjectKey.namespacedAllCarefully_eq`: the digest of a namespace is long enough for the cut.
* `Payload.padCarefully_eq_ok_iff`: the bytes that can be copied into the padding are those that make a
  payload.
-/

namespace ObjectVault

/-- What breaks a program that relies on what it has not checked on the spot. -/
inductive Breach where
  /-- A part ends behind the end of the sequence. -/
  | pastEnd (stop length : Nat)
  /-- A part of a text ends inside a character. -/
  | insideCharacter (stop : Nat)
  /-- A sequence is copied into one of another length. -/
  | unequalLengths (target source : Nat)
  /-- A slot is not of the kind that has been checked. -/
  | unexpectedSlot (index : Nat)
  /-- A read buffer makes no payload. -/
  | noPayload (cause : ValueError)
  /-- A guard is used that holds no session. -/
  | noSession
  deriving DecidableEq

/-! ### Parts and copies -/

namespace Bytes

/-- The start of a sequence, up to an index. -/
def cut (stop : Nat) (bytes : Bytes) : Except Breach Bytes :=
  if stop ≤ bytes.length then .ok (bytes.take stop) else .error (.pastEnd stop bytes.length)

def copy (target source : Bytes) : Except Breach Bytes :=
  if source.length = target.length then .ok source
  else .error (.unequalLengths target.length source.length)

/-- A buffer whose start is cut off to the length of a sequence, which is copied into it. -/
def copyToFront (buffer source : Bytes) : Except Breach Bytes := do
  let front ← copy (← cut source.length buffer) source
  return front ++ buffer.drop source.length

variable {stop : Nat} {bytes buffer source result : Bytes}

theorem cut_of_le (inside : stop ≤ bytes.length) : cut stop bytes = .ok (bytes.take stop) :=
  if_pos inside

/-- A cut succeeds exactly if it stops inside, and then gives what stands before the stop. -/
theorem cut_eq_ok_iff : cut stop bytes = .ok result ↔ stop ≤ bytes.length ∧ result = bytes.take stop := by
  by_cases inside : stop ≤ bytes.length
  · rw [cut_of_le inside]
    constructor
    · rintro ⟨⟩
      exact ⟨inside, rfl⟩
    · rintro ⟨-, rfl⟩
      rfl
  · rw [cut, if_neg inside]
    exact ⟨nofun, fun fits => absurd fits.1 inside⟩

/-- A sequence that fits is written over the start of the buffer. -/
theorem copyToFront_of_le (fits : source.length ≤ buffer.length) :
    copyToFront buffer source = .ok (buffer.overwrite source) := by
  have same : source.length = (buffer.take source.length).length := by
    rw [List.length_take, Nat.min_eq_left fits]
  have whole : source.take buffer.length = source := List.take_of_length_le fits
  rw [copyToFront, cut_of_le fits, overwrite, whole]
  simp only [bind, Except.bind, copy, if_pos same]
  rfl

/-- A copy to the front succeeds exactly if the source fits into the buffer, and then overwrites its
start. -/
theorem copyToFront_eq_ok_iff :
    copyToFront buffer source = .ok result ↔
      source.length ≤ buffer.length ∧ result = buffer.overwrite source := by
  constructor
  · intro copies
    obtain ⟨front, cuts, -⟩ := bind_eq_ok_iff.mp copies
    obtain ⟨fits, -⟩ := cut_eq_ok_iff.mp cuts
    rw [copyToFront_of_le fits] at copies
    exact ⟨fits, (Except.ok.inj copies).symm⟩
  · rintro ⟨fits, rfl⟩
    exact copyToFront_of_le fits

end Bytes

/-! ### Parts of texts -/

namespace Utf8

/-- Of characters of one byte each, as many are cut off as bytes. -/
theorem take_encode {chars : List Char} (ordinary : ∀ c ∈ chars, Ordinary c) (count : Nat) :
    (encode chars).take count = encode (chars.take count) := by
  induction chars generalizing count with
  | nil => rw [encode_nil, List.take_nil, List.take_nil, encode_nil]
  | cons c rest ih =>
      cases count with
      | zero => rfl
      | succ count =>
          obtain ⟨b, one⟩ := List.length_eq_one_iff.mp (ordinary c List.mem_cons_self).1
          have later := ih (fun other member => ordinary other (List.mem_cons_of_mem c member)) count
          rw [encode] at later
          rw [encode, List.flatMap_cons, one, List.singleton_append, List.take_succ_cons, later,
            List.take_succ_cons, encode, encode, List.flatMap_cons, one, List.singleton_append]

/-- The start of a text, up to an index among its bytes, which has to lie between two characters. -/
def cutText (stop : Nat) (text : String) : Except Breach String := do
  let front ← Bytes.cut stop (ofText text)
  match text? front with
  | some part => return part
  | none => throw (.insideCharacter stop)

/-- A text of ordinary characters can be cut wherever it is not at its end. -/
theorem cutText_of_ordinary {chars : List Char} (ordinary : ∀ c ∈ chars, Ordinary c) {stop : Nat}
    (inside : stop ≤ chars.length) :
    cutText stop (String.ofList chars) = .ok (String.ofList (chars.take stop)) := by
  have bytes : ofText (String.ofList chars) = encode chars := by rw [ofText, String.toList_ofList]
  have long : stop ≤ (encode chars).length := by rwa [length_encode ordinary]
  have reads : text? (encode (chars.take stop)) = some (String.ofList (chars.take stop)) := by
    rw [text?, decode?_encode, Option.map_some]
  rw [cutText, bytes, Bytes.cut_of_le long, take_encode ordinary]
  simp only [bind, Except.bind, reads]
  rfl

/-- A letter of two bytes cannot be cut in the middle. -/
example : cutText 1 "é" = .error (.insideCharacter 1) := by cbv

end Utf8

/-! ### Keys in a namespace -/

namespace ObjectKey

variable (digest : Bytes → Digest) (space : String)

/-- What stands before the slash, the digest being cut at the index that the library cuts it at. -/
def groupStemCarefully (names : List String) : Except Breach String :=
  if reachesLimit space names then
    Utf8.cutText hashedNamespaceLength (Bytes.hex (digest (Utf8.ofText space)).1)
  else return space

def namespacedAllCarefully (names : List String) :
    Except Breach (Except ValueError (List ObjectKey)) := do
  let stem ← groupStemCarefully digest space names
  return names.mapM fun name => ofText (stem ++ "/" ++ name)

def namespacedCarefully (name : String) : Except Breach (Except ValueError ObjectKey) := do
  let keys ← namespacedAllCarefully digest space [name]
  return do
    match (← keys).getLast? with
    | some key => return key
    | none => throw .emptyKey

/-- A digest has thirty-two digits, more than the twenty that are cut off. -/
theorem groupStemCarefully_eq (names : List String) :
    groupStemCarefully digest space names = .ok (groupStem digest space names) := by
  have long : hashedNamespaceLength ≤ (Bytes.hexDigits (digest (Utf8.ofText space)).1).length := by
    rw [Bytes.length_hexDigits, (digest (Utf8.ofText space)).2]
    decide
  have cuts := Utf8.cutText_of_ordinary (ordinary_hexDigits (digest (Utf8.ofText space)).1) long
  rw [groupStemCarefully, groupStem]
  split
  · rw [Bytes.hex, cuts, hashedNamespace]
  · rfl

/-- No group of names breaks the careful form, whatever the digest and the namespace are. -/
theorem namespacedAllCarefully_eq (names : List String) :
    namespacedAllCarefully digest space names = .ok (namespacedAllWith digest space names) := by
  rw [namespacedAllCarefully, groupStemCarefully_eq]
  rfl

theorem namespacedCarefully_eq (name : String) :
    namespacedCarefully digest space name = .ok (namespacedWith digest space name) := by
  rw [namespacedCarefully, namespacedAllCarefully_eq]
  rfl

end ObjectKey

/-! ### Payloads -/

namespace Payload

/-- Bytes copied over the start of the zeros that are sent; they need not be those of a payload. -/
def padCarefully (bytes : Bytes) : Except Breach Bytes :=
  Bytes.copyToFront (List.replicate objectCapacity 0) bytes

/-- The bytes before the first NUL, cut at its index. -/
def textCarefully (bytes : Bytes) : Except Breach Bytes :=
  match bytes.findIdx? (· == 0) with
  | some stop => Bytes.cut stop bytes
  | none => return bytes

variable {bytes result : Bytes}

/-- Padding succeeds exactly for bytes within the capacity, and then gives the padded form. -/
theorem padCarefully_eq_ok_iff :
    padCarefully bytes = .ok result ↔
      bytes.length ≤ objectCapacity ∧ result = bytes.padded objectCapacity := by
  rw [padCarefully, Bytes.copyToFront_eq_ok_iff, List.length_replicate,
    Client.Response.overwrite_zeros]
  refine and_congr_right fun fits => ?_
  rw [List.take_of_length_le fits]

/-- The padding of a payload is the careful one. -/
theorem padCarefully_bytes (payload : Payload) : padCarefully payload.bytes = .ok payload.padded :=
  padCarefully_eq_ok_iff.mpr ⟨payload.fits, rfl⟩

theorem ofBytes_isOk_iff : (∃ payload, ofBytes bytes = .ok payload) ↔ bytes.length ≤ objectCapacity := by
  constructor
  · rintro ⟨payload, made⟩
    rw [← bytes_of_ofBytes made]
    exact payload.fits
  · intro fits
    exact ⟨⟨bytes, fits⟩, ofBytes_bytes ⟨bytes, fits⟩⟩

theorem textCarefully_eq (bytes : Bytes) : textCarefully bytes = .ok bytes.text := by
  have text : bytes.text = bytes.take (bytes.findIdx (· == 0)) := by
    rw [Bytes.text, List.takeWhile_eq_take_findIdx_not]
    congr 2
    funext b
    exact Bool.not_not _
  rw [textCarefully, text]
  split
  · next stop first =>
      obtain ⟨inside, same⟩ := List.findIdx?_eq_some_iff_findIdx_eq.mp first
      rw [same]
      exact Bytes.cut_of_le (Nat.le_of_lt inside)
  · next none =>
      rw [List.findIdx?_eq_none_iff_findIdx_eq.mp none, List.take_length]
      rfl

end Payload

end ObjectVault
