/-!
# Bytes

Object ids, contents and file names are sequences of octets. This module holds the few operations
on them that the rest of the library shares.

* `Bytes.padded` fills a sequence up with zeros; `Bytes.text` cuts one at its first NUL. On short
  enough sequences the padding has the asked length (`length_padded`), and cutting undoes it as far
  as a NUL allows (`text_padded`).
* `Bytes.overwrite` writes over the start of a buffer and never changes the buffer's length
  (`length_overwrite`).
* `Bytes.hex` spells a sequence in lower-case hexadecimal, two digits for each byte
  (`length_hexDigits`); `Bytes.ofHexDigits?` reads digits of either case.
-/

namespace ObjectVault

/-- A sequence of octets. -/
abbrev Bytes := List UInt8

namespace Bytes

/-! ### Zero padding and text -/

/-- The bytes with as many zeros behind them as reach the length `size`; longer sequences stay as they
are. -/
def padded (size : Nat) (bytes : Bytes) : Bytes :=
  bytes ++ List.replicate (size - bytes.length) 0

/-- The bytes before the first NUL, or all of them where there is none. -/
def text (bytes : Bytes) : Bytes :=
  bytes.takeWhile (· != 0)

/-- The bytes without the zeros at the end. -/
def trimmed (bytes : Bytes) : Bytes :=
  (bytes.reverse.dropWhile (· == 0)).reverse

/-- Padding gives exactly the size that is asked for. -/
theorem length_padded {size : Nat} {bytes : Bytes} (fits : bytes.length ≤ size) :
    (bytes.padded size).length = size := by
  simp [padded]; omega

theorem padded_of_length_eq {size : Nat} {bytes : Bytes} (full : bytes.length = size) :
    bytes.padded size = bytes := by
  simp [padded, full]

/-- Zeros put after a sequence never change its text. -/
theorem text_padded (size : Nat) (bytes : Bytes) : (bytes.padded size).text = bytes.text := by
  rw [padded, text, text, List.takeWhile_append]
  split
  · next whole =>
      have all : bytes.takeWhile (· != 0) = bytes := (List.takeWhile_prefix _).eq_of_length whole
      cases size - bytes.length <;> simp [all, List.replicate_succ]
  · rfl

/-! ### Buffers -/

/-- The buffer with `data` written over its start, cut to the buffer's length. -/
def overwrite (buffer data : Bytes) : Bytes :=
  data.take buffer.length ++ buffer.drop data.length

theorem length_overwrite (buffer data : Bytes) : (buffer.overwrite data).length = buffer.length := by
  simp [overwrite]; omega

/-! ### Hexadecimal -/

def hexDigit (n : Nat) : Char :=
  if n < 10 then Char.ofNat (48 + n) else Char.ofNat (87 + n)

/-- Two digits for each byte, the high half first. -/
def hexDigits (bytes : Bytes) : List Char :=
  bytes.flatMap fun b => [hexDigit (b.toNat / 16), hexDigit (b.toNat % 16)]

def hex (bytes : Bytes) : String := String.ofList (hexDigits bytes)

/-- The value of a hexadecimal digit of either case. -/
def hexValue? (c : Char) : Option Nat :=
  if '0' ≤ c ∧ c ≤ '9' then some (c.toNat - 48)
  else if 'a' ≤ c ∧ c ≤ 'f' then some (c.toNat - 87)
  else if 'A' ≤ c ∧ c ≤ 'F' then some (c.toNat - 55)
  else none

/-- The bytes that pairs of hexadecimal digits spell. -/
def ofHexDigits? : List Char → Option Bytes
  | [] => some []
  | [_] => none
  | high :: low :: rest => do
      let h ← hexValue? high
      let l ← hexValue? low
      let bytes ← ofHexDigits? rest
      return UInt8.ofNat (h * 16 + l) :: bytes

theorem length_hexDigits (bytes : Bytes) : (hexDigits bytes).length = 2 * bytes.length := by
  induction bytes with
  | nil => rfl
  | cons b rest ih =>
      simp only [hexDigits, List.flatMap_cons, List.length_append, List.length_cons] at ih ⊢
      rw [ih]; simp; omega

end Bytes

end ObjectVault
