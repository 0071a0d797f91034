import ObjectVault.Bytes

/-!
# UTF-8

Text as bytes and bytes as text. Reading splits a byte sequence into pieces: a piece is a character
or a broken stretch, which is the longest start of a character that the next byte (or the end)
rules out.

* `encode` writes characters; `decode?` reads them and refuses broken bytes; `lossy` puts U+FFFD for
  each broken stretch.
* `length_next_le` is why reading ends: each piece takes at least one byte.
-/

namespace ObjectVault.Utf8

/-! ### Writing -/

/-- The bytes of a sequence of characters. -/
def encode (chars : List Char) : Bytes := chars.flatMap String.utf8EncodeChar

def ofText (text : String) : Bytes := encode text.toList

def length (text : String) : Nat := (ofText text).length

@[simp] theorem encode_nil : encode [] = [] := rfl

@[simp] theorem encode_append (a b : List Char) : encode (a ++ b) = encode a ++ encode b :=
  List.flatMap_append

/-! ### Reading -/

/-- One step of reading: a character, or the bytes of a broken stretch. -/
inductive Piece where
  | char (c : Char)
  | broken (bytes : Bytes)
  deriving DecidableEq, Repr

/-- What a first byte announces: the bits it contributes, how many bytes follow it, and the range of
the byte that comes next. -/
structure Lead where
  bits : Nat
  more : Nat
  low : Nat
  high : Nat

/-- The ranges keep out overlong spellings, surrogates and numbers past U+10FFFF. -/
def lead? (byte : Nat) : Option Lead :=
  if byte < 0x80 then some ⟨byte, 0, 0x80, 0xBF⟩
  else if byte < 0xC2 then none
  else if byte < 0xE0 then some ⟨byte - 0xC0, 1, 0x80, 0xBF⟩
  else if byte = 0xE0 then some ⟨0, 2, 0xA0, 0xBF⟩
  else if byte = 0xED then some ⟨0xD, 2, 0x80, 0x9F⟩
  else if byte < 0xF0 then some ⟨byte - 0xE0, 2, 0x80, 0xBF⟩
  else if byte = 0xF0 then some ⟨0, 3, 0x90, 0xBF⟩
  else if byte < 0xF4 then some ⟨byte - 0xF0, 3, 0x80, 0xBF⟩
  else if byte = 0xF4 then some ⟨4, 3, 0x80, 0x8F⟩
  else none

/-- Reads the `more` bytes that a character still owes; the first of them lies between `low` and
`high`, and the later ones are ordinary continuation bytes. -/
def follow (seen : Bytes) : (more bits low high : Nat) → Bytes → Piece × Bytes
  | 0, bits, _, _, rest => (.char (Char.ofNat bits), rest)
  | _ + 1, _, _, _, [] => (.broken seen, [])
  | more + 1, bits, low, high, b :: rest =>
      if low ≤ b.toNat ∧ b.toNat ≤ high then
        follow (seen ++ [b]) more (bits * 64 + (b.toNat - 0x80)) 0x80 0xBF rest
      else (.broken seen, b :: rest)

/-- The first piece of a sequence that starts with `b`, and what is left. -/
def next (b : UInt8) (rest : Bytes) : Piece × Bytes :=
  match lead? b.toNat with
  | none => (.broken [b], rest)
  | some lead => follow [b] lead.more lead.bits lead.low lead.high rest

theorem length_follow_le (seen : Bytes) (more bits low high : Nat) (rest : Bytes) :
    (follow seen more bits low high rest).2.length ≤ rest.length := by
  induction more generalizing seen bits low high rest with
  | zero => simp [follow]
  | succ more ih =>
      cases rest with
      | nil => simp [follow]
      | cons b rest =>
          simp only [follow]
          split
          · exact Nat.le_succ_of_le (ih _ _ _ _ _)
          · exact Nat.le_refl _

/-- What is left behind a character is no longer than what stood there, so that decoding ends. -/
theorem length_next_le (b : UInt8) (rest : Bytes) : (next b rest).2.length ≤ rest.length := by
  simp only [next]
  split
  · exact Nat.le_refl _
  · exact length_follow_le _ _ _ _ _ _

/-- The pieces of a byte sequence, from left to right. -/
def pieces : Bytes → List Piece
  | [] => []
  | b :: rest => (next b rest).1 :: pieces (next b rest).2
termination_by bytes => bytes.length
decreasing_by exact Nat.lt_succ_of_le (length_next_le b rest)

def Piece.char? : Piece → Option Char
  | .char c => some c
  | .broken _ => none

/-- The characters of a byte sequence without broken stretches. -/
def decode? (bytes : Bytes) : Option (List Char) := (pieces bytes).mapM Piece.char?

def text? (bytes : Bytes) : Option String := (decode? bytes).map String.ofList

/-- The characters of a byte sequence, U+FFFD standing for each broken stretch. -/
def lossy (bytes : Bytes) : List Char :=
  (pieces bytes).map fun piece => piece.char?.getD '\uFFFD'

/-- The text of a byte sequence, U+FFFD standing for each broken stretch. -/
def lossyText (bytes : Bytes) : String := String.ofList (lossy bytes)

end ObjectVault.Utf8
