import Mathlib.Data.List.TakeWhile
import ObjectVault.Payload

/-!
# Padding

What is sent for a payload is its bytes with zeros behind them, and what is read of it as text ends
before the first zero. Padding forgets how many zeros a payload ends in, and nothing else
(`padded_eq_padded_iff`); it forgets nothing of the text (`text_of_padded`), which is as much of the
payload from its start as has no zero in it (`prefix_text_iff`).
-/

namespace ObjectVault

namespace Bytes

variable {a b bytes start : Bytes} {size : Nat}

/-! ### Zeros at the end -/

theorem trimmed_append_zeros (bytes : Bytes) (count : Nat) :
    trimmed (bytes ++ List.replicate count 0) = trimmed bytes := by
  have zeros : ∀ b ∈ List.replicate count (0 : UInt8), (b == 0) = true := by
    intro b member
    rw [List.eq_of_mem_replicate member]
    rfl
  rw [trimmed, trimmed, List.reverse_append, List.reverse_replicate, List.dropWhile_append_of_pos zeros]

/-- What trimming takes away is zeros. -/
theorem exists_trimmed_append_zeros (bytes : Bytes) :
    ∃ count, bytes = bytes.trimmed ++ List.replicate count 0 := by
  have zeros : ∀ b ∈ bytes.reverse.takeWhile (· == 0), b = 0 := by
    intro b member
    simpa using List.mem_takeWhile_imp member
  have cut := congrArg List.reverse (List.takeWhile_append_dropWhile (p := (· == 0)) (l := bytes.reverse))
  rw [List.reverse_append, List.reverse_reverse, List.eq_replicate_of_mem zeros,
    List.reverse_replicate] at cut
  exact ⟨_, cut.symm⟩

/-- Padding and trimming meet in the middle. -/
theorem trimmed_padded (size : Nat) (bytes : Bytes) : (bytes.padded size).trimmed = bytes.trimmed :=
  trimmed_append_zeros bytes _

/-- Padding makes up for what trimming takes away. -/
theorem padded_trimmed (fits : bytes.length ≤ size) : bytes.trimmed.padded size = bytes.padded size := by
  obtain ⟨count, whole⟩ := exists_trimmed_append_zeros bytes
  generalize bytes.trimmed = front at whole
  subst whole
  rw [List.length_append, List.length_replicate] at fits
  rw [padded, padded, List.append_assoc, List.replicate_append_replicate, List.length_append,
    List.length_replicate]
  congr 2
  omega

/-- Padding forgets zeros at the end, and nothing else. -/
theorem padded_eq_padded_iff (fitsA : a.length ≤ size) (fitsB : b.length ≤ size) :
    a.padded size = b.padded size ↔ a.trimmed = b.trimmed := by
  constructor
  · intro same
    rw [← trimmed_padded size a, same, trimmed_padded]
  · intro same
    rw [← padded_trimmed fitsA, same, padded_trimmed fitsB]

/-! ### The text before the first zero -/

/-- A text ends before its first zero. -/
theorem nul_not_mem_text (bytes : Bytes) : 0 ∉ bytes.text := by
  intro member
  have other := List.mem_takeWhile_imp member
  simp at other

/-- A start without zeros is a start of the text. -/
theorem prefix_text_iff : start <+: bytes.text ↔ start <+: bytes ∧ 0 ∉ start := by
  constructor
  · intro starts
    exact ⟨starts.trans (List.takeWhile_prefix _), fun nul => nul_not_mem_text bytes (starts.subset nul)⟩
  · rintro ⟨⟨rest, rfl⟩, noNul⟩
    have all : ∀ b ∈ start, (b != 0) = true := by
      intro b member
      have other : b ≠ 0 := fun zero => noNul (zero ▸ member)
      simpa using other
    rw [text, List.takeWhile_append_of_pos all]
    exact List.prefix_append _ _

end Bytes

namespace Payload

/-- The payload that holds another one as it is sent. -/
def full (payload : Payload) : Payload := ⟨payload.padded, Nat.le_of_eq payload.length_padded⟩

theorem padded_full (payload : Payload) : payload.full.padded = payload.padded :=
  Bytes.padded_of_length_eq payload.length_padded

theorem text_full (payload : Payload) : payload.full.text = payload.text :=
  Bytes.text_padded objectCapacity payload.bytes

end Payload

end ObjectVault
