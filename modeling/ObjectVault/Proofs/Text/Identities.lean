import ObjectVault.Proofs.Text.Hexadecimal
import ObjectVault.ServiceId

/-!
# Identities as text

The digits of an identity can be put together again from their groups (`ungrouped?_grouped`), so that
an identity is read back from its text (`ofText_text`). The text consists of ordinary characters.
-/

namespace ObjectVault

namespace ServiceId

/-- Groups of digits can be put together again. -/
theorem ungrouped?_grouped {lengths : List Nat} {digits : List Char} (some_groups : lengths ≠ [])
    (full : digits.length = lengths.foldr (· + ·) 0) :
    ungrouped? lengths (grouped lengths digits) = some digits := by
  fun_induction grouped lengths digits with
  | case1 => exact absurd rfl some_groups
  | case2 n digits =>
      rw [List.foldr_cons, List.foldr_nil, Nat.add_zero] at full
      have whole : digits.take n = digits := List.take_of_length_le (Nat.le_of_eq full)
      rw [ungrouped?, whole, if_pos full]
  | case3 n rest digits more ih =>
      rw [List.foldr_cons] at full
      have length : (digits.take n).length = n := by
        rw [List.length_take]
        omega
      have others : rest ≠ [] := fun none => more none
      have later := ih others (by rw [List.length_drop]; omega)
      have cut : (digits.take n ++ '-' :: grouped rest (digits.drop n)).drop n
          = '-' :: grouped rest (digits.drop n) := by
        rw [List.drop_append_of_le_length (Nat.le_of_eq length.symm),
          List.drop_of_length_le (Nat.le_of_eq length), List.nil_append]
      have front : (digits.take n ++ '-' :: grouped rest (digits.drop n)).take n = digits.take n := by
        rw [List.take_append_of_le_length (Nat.le_of_eq length.symm),
          List.take_of_length_le (Nat.le_of_eq length)]
      rw [ungrouped?]
      · rw [cut]
        simp only [later, Option.map_some, front, List.take_append_drop]
      · exact more

/-- Hyphens between ordinary characters keep them ordinary. -/
theorem ordinary_grouped {digits : List Char} (ordinary : ∀ c ∈ digits, Utf8.Ordinary c)
    (lengths : List Nat) : ∀ c ∈ grouped lengths digits, Utf8.Ordinary c := by
  fun_induction grouped lengths digits with
  | case1 => exact fun c member => (nomatch member)
  | case2 digits n => exact fun c member => ordinary c (List.mem_of_mem_take member)
  | case3 digits n rest _ ih =>
      intro c member
      rcases List.mem_append.mp member with front | later
      · exact ordinary c (List.mem_of_mem_take front)
      · rcases List.mem_cons.mp later with rfl | later
        · decide
        · exact ih (fun d back => ordinary d (List.mem_of_mem_drop back)) c later

theorem length_grouped {digits : List Char} (full : digits.length = 32) :
    (grouped groupLengths digits).length = 36 := by
  simp [groupLengths, grouped, full]

/-- The digits of an identity fill its groups. -/
theorem length_digits (id : ServiceId) : (Bytes.hexDigits id.bytes).length = 32 := by
  rw [Bytes.length_hexDigits, id.length_bytes]
  rfl

/-- An identity is read from its digits in groups. -/
theorem ofGrouped?_grouped (id : ServiceId) :
    ofGrouped? (grouped groupLengths (Bytes.hexDigits id.bytes)) = some id := by
  have ungroups : ungrouped? groupLengths (grouped groupLengths (Bytes.hexDigits id.bytes))
      = some (Bytes.hexDigits id.bytes) := ungrouped?_grouped (by decide) id.length_digits
  rw [ofGrouped?, ungroups, Option.bind_some, ofDigits?, Bytes.ofHexDigits?_hexDigits]
  simp [id.length_bytes]

/-- An identity is read back from its text. -/
theorem ofText_text (id : ServiceId) : ofText id.text = .ok id := by
  have size : (Utf8.encode (grouped groupLengths (Bytes.hexDigits id.bytes))).length = 36 := by
    rw [Utf8.length_encode (ordinary_grouped (ordinary_hexDigits id.bytes) _),
      length_grouped id.length_digits]
  rw [ofText, text, String.toList_ofList, read]
  simp only [size]
  rw [readGrouped, ofGrouped?_grouped]

/-- Different identities have different texts. -/
theorem text_injective {first second : ServiceId} (same : first.text = second.text) :
    first = second := by
  have read := congrArg ofText same
  rw [ofText_text, ofText_text] at read
  exact Except.ok.inj read

end ServiceId

end ObjectVault
