import ObjectVault.FileTree.Path

/-!
# Hexadecimal as text

Hexadecimal digits can be read back (`hexDigits_injective`). They are ordinary characters: each
takes one byte, and none is a slash or a NUL.
-/

namespace ObjectVault

/-! ### Reading digits back -/

namespace Bytes

theorem hexValue?_hexDigit : ∀ n < 16, hexValue? (hexDigit n) = some n := by decide

/-- Hexadecimal digits can be read back. -/
theorem ofHexDigits?_hexDigits (bytes : Bytes) : ofHexDigits? (hexDigits bytes) = some bytes := by
  induction bytes with
  | nil => rfl
  | cons b rest ih =>
      have bound : b.toNat < 256 := b.toNat_lt
      have high := hexValue?_hexDigit (b.toNat / 16) (by omega)
      have low := hexValue?_hexDigit (b.toNat % 16) (by omega)
      have whole : b.toNat / 16 * 16 + b.toNat % 16 = b.toNat := by omega
      have cut : hexDigits (b :: rest)
          = hexDigit (b.toNat / 16) :: hexDigit (b.toNat % 16) :: hexDigits rest := rfl
      simp only [cut, ofHexDigits?, high, low, ih, Option.bind_eq_bind, Option.bind_some, whole,
        UInt8.ofNat_toNat]
      rfl

/-- Bytes are told apart by their digits. -/
theorem hexDigits_injective {first second : Bytes} (same : hexDigits first = hexDigits second) :
    first = second := by
  have read := congrArg ofHexDigits? same
  rw [ofHexDigits?_hexDigits, ofHexDigits?_hexDigits] at read
  exact Option.some.inj read

end Bytes

/-! ### Ordinary characters -/

namespace Utf8

/-- A character of one byte that means nothing in a path. -/
def Ordinary (c : Char) : Prop :=
  (String.utf8EncodeChar c).length = 1 ∧ slash ∉ String.utf8EncodeChar c ∧
    0 ∉ String.utf8EncodeChar c

instance (c : Char) : Decidable (Ordinary c) := by
  unfold Ordinary
  infer_instance

variable {chars : List Char}

/-- Ordinary characters take one byte each. -/
theorem length_encode (ordinary : ∀ c ∈ chars, Ordinary c) :
    (encode chars).length = chars.length := by
  induction chars with
  | nil => rfl
  | cons c rest ih =>
      have first := (ordinary c List.mem_cons_self).1
      have later := ih fun other member => ordinary other (List.mem_cons_of_mem c member)
      rw [encode] at later
      rw [encode, List.flatMap_cons, List.length_append, first, later, List.length_cons]
      omega

end Utf8

theorem ordinary_hexDigit : ∀ n < 16, Utf8.Ordinary (Bytes.hexDigit n) := by decide

theorem ordinary_hexDigits (bytes : Bytes) : ∀ c ∈ Bytes.hexDigits bytes, Utf8.Ordinary c := by
  intro c member
  obtain ⟨b, -, digit⟩ := List.mem_flatMap.mp member
  have bound : b.toNat < 256 := b.toNat_lt
  rcases List.mem_cons.mp digit with rfl | digit
  · exact ordinary_hexDigit _ (by omega)
  · rw [List.mem_singleton.mp digit]
    exact ordinary_hexDigit _ (by omega)

end ObjectVault
