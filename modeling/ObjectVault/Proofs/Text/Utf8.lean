import ObjectVault.Text.Utf8

/-!
# Reading text back

The bytes of a text split into its characters and nothing else (`pieces_encode`), so that text comes
back from its bytes, whether broken stretches are refused (`text?_ofText`) or replaced
(`lossyText_ofText`), and different texts have different bytes (`ofText_injective`). No other bytes are
read as text (`ofText_of_text?`).

A character is read as it has been written: the first byte announces how many follow, and rules out
just those second bytes that would spell a number below the range of that length, a surrogate, or a
number that is too large (`lead?_of_three`, `lead?_of_four`).
-/

namespace ObjectVault.Utf8

/-! ### First bytes -/

/-- A byte below 0x80 is a character of its own. -/
theorem lead?_of_one {b : Nat} (high : b < 0x80) : lead? b = some ⟨b, 0, 0x80, 0xBF⟩ := by
  rw [lead?, if_pos high]

/-- Between 0xC2 and 0xDF, a byte announces one more. -/
theorem lead?_of_two {b : Nat} (low : 0xC2 ≤ b) (high : b < 0xE0) :
    lead? b = some ⟨b - 0xC0, 1, 0x80, 0xBF⟩ := by
  rw [lead?, if_neg (by omega), if_neg (by omega), if_pos high]

/-- Three bytes spell nothing below U+0800 and no surrogate. -/
theorem lead?_of_three {b : Nat} (low : 0xE0 ≤ b) (high : b < 0xF0) :
    lead? b
      = some ⟨b - 0xE0, 2, if b = 0xE0 then 0xA0 else 0x80, if b = 0xED then 0x9F else 0xBF⟩ := by
  rw [lead?, if_neg (by omega), if_neg (by omega), if_neg (by omega)]
  by_cases first : b = 0xE0
  · subst first
    rfl
  by_cases surrogates : b = 0xED
  · subst surrogates
    rfl
  rw [if_neg first, if_neg surrogates, if_pos high, if_neg first, if_neg surrogates]

/-- Four bytes spell nothing below U+10000 and nothing past U+10FFFF. -/
theorem lead?_of_four {b : Nat} (low : 0xF0 ≤ b) (high : b ≤ 0xF4) :
    lead? b
      = some ⟨b - 0xF0, 3, if b = 0xF0 then 0x90 else 0x80, if b = 0xF4 then 0x8F else 0xBF⟩ := by
  rw [lead?, if_neg (by omega), if_neg (by omega), if_neg (by omega), if_neg (by omega),
    if_neg (by omega), if_neg (by omega)]
  by_cases first : b = 0xF0
  · subst first
    rfl
  by_cases last : b = 0xF4
  · subst last
    rfl
  rw [if_neg first, if_pos (by omega), if_neg first, if_neg last]

/-! ### Characters -/

/-- What a first byte announces decides how its followers are read. -/
theorem next_of_lead {b : UInt8} {lead : Lead} (announces : lead? b.toNat = some lead)
    (rest : Bytes) : next b rest = follow [b] lead.more lead.bits lead.low lead.high rest := by
  rw [next, announces]

/-- A follower inside its bounds adds six bits. -/
theorem follow_cons {seen : Bytes} {more bits low high : Nat} {b : UInt8} (rest : Bytes)
    (inside : low ≤ b.toNat ∧ b.toNat ≤ high) :
    follow seen (more + 1) bits low high (b :: rest)
      = follow (seen ++ [b]) more (bits * 64 + (b.toNat - 0x80)) 0x80 0xBF rest := by
  rw [follow, if_pos inside]

theorem toNat_ofNat {n : Nat} (small : n < 256) : (UInt8.ofNat n).toNat = n := by
  rw [UInt8.toNat_ofNat', Nat.mod_eq_of_lt small]

section Lengths

variable {v : Nat} (rest : Bytes)

theorem next_of_one (high : v < 0x80) :
    next (UInt8.ofNat v) rest = (.char (Char.ofNat v), rest) := by
  have first : (UInt8.ofNat v).toNat = v := toNat_ofNat (by omega)
  rw [next_of_lead (lead?_of_one (by omega)), follow, first]

theorem next_of_two (low : 0x80 ≤ v) (high : v < 0x800) :
    next (UInt8.ofNat (v / 64 % 32 + 192)) (UInt8.ofNat (v % 64 + 128) :: rest)
      = (.char (Char.ofNat v), rest) := by
  have first : (UInt8.ofNat (v / 64 % 32 + 192)).toNat = v / 64 + 192 := by
    rw [toNat_ofNat (by omega)]
    omega
  have second : (UInt8.ofNat (v % 64 + 128)).toNat = v % 64 + 128 := toNat_ofNat (by omega)
  have whole : (v / 64 + 192 - 0xC0) * 64 + (v % 64 + 128 - 0x80) = v := by omega
  rw [next_of_lead (lead?_of_two (by omega) (by omega)), first]
  rw [follow_cons rest (by rw [second]; dsimp only; omega), follow, second, whole]

/-- A character of three bytes is read from the bytes that encode its value, unless that is a
surrogate's. With one, two or four bytes, only the bounds of the value differ. -/
theorem next_of_three (low : 0x800 ≤ v) (high : v < 0x10000)
    (valid : v < 0xD800 ∨ 0xDFFF < v) :
    next (UInt8.ofNat (v / 4096 % 16 + 224))
        (UInt8.ofNat (v / 64 % 64 + 128) :: UInt8.ofNat (v % 64 + 128) :: rest)
      = (.char (Char.ofNat v), rest) := by
  have first : (UInt8.ofNat (v / 4096 % 16 + 224)).toNat = v / 4096 + 224 := by
    rw [toNat_ofNat (by omega)]
    omega
  have second : (UInt8.ofNat (v / 64 % 64 + 128)).toNat = v / 64 % 64 + 128 := toNat_ofNat (by omega)
  have third : (UInt8.ofNat (v % 64 + 128)).toNat = v % 64 + 128 := toNat_ofNat (by omega)
  have whole : ((v / 4096 + 224 - 0xE0) * 64 + (v / 64 % 64 + 128 - 0x80)) * 64
      + (v % 64 + 128 - 0x80) = v := by omega
  rw [next_of_lead (lead?_of_three (by omega) (by omega)), first]
  -- the second byte lies in the range that the first one leaves
  rw [follow_cons _ (by rw [second]; dsimp only; split <;> split <;> omega)]
  rw [follow_cons rest (by rw [third]; omega), follow, second, third, whole]

theorem next_of_four (low : 0x10000 ≤ v) (high : v < 0x110000) :
    next (UInt8.ofNat (v / 262144 % 8 + 240))
        (UInt8.ofNat (v / 4096 % 64 + 128) :: UInt8.ofNat (v / 64 % 64 + 128)
          :: UInt8.ofNat (v % 64 + 128) :: rest)
      = (.char (Char.ofNat v), rest) := by
  have first : (UInt8.ofNat (v / 262144 % 8 + 240)).toNat = v / 262144 + 240 := by
    rw [toNat_ofNat (by omega)]
    omega
  have second : (UInt8.ofNat (v / 4096 % 64 + 128)).toNat = v / 4096 % 64 + 128 :=
    toNat_ofNat (by omega)
  have third : (UInt8.ofNat (v / 64 % 64 + 128)).toNat = v / 64 % 64 + 128 := toNat_ofNat (by omega)
  have fourth : (UInt8.ofNat (v % 64 + 128)).toNat = v % 64 + 128 := toNat_ofNat (by omega)
  have whole : (((v / 262144 + 240 - 0xF0) * 64 + (v / 4096 % 64 + 128 - 0x80)) * 64
      + (v / 64 % 64 + 128 - 0x80)) * 64 + (v % 64 + 128 - 0x80) = v := by omega
  rw [next_of_lead (lead?_of_four (by omega) (by omega)), first]
  rw [follow_cons _ (by rw [second]; dsimp only; split <;> split <;> omega)]
  rw [follow_cons _ (by rw [third]; omega), follow_cons rest (by rw [fourth]; omega), follow]
  rw [second, third, fourth, whole]

end Lengths

/-- A character is read as it has been written, whatever comes after it. -/
theorem next_utf8EncodeChar (c : Char) (rest : Bytes) :
    ∃ b others, String.utf8EncodeChar c = b :: others ∧
      next b (others ++ rest) = (.char c, rest) := by
  have valid : c.toNat < 0xD800 ∨ (0xDFFF < c.toNat ∧ c.toNat < 0x110000) := c.valid
  have back : Char.ofNat c.toNat = c := c.ofNat_toNat
  have number : c.val.toNat = c.toNat := rfl
  rw [String.utf8EncodeChar]
  simp only [number]
  generalize c.toNat = v at valid back
  subst back
  split
  · next one => exact ⟨_, _, rfl, next_of_one rest (by omega)⟩
  split
  · next one two => exact ⟨_, _, rfl, next_of_two rest (by omega) (by omega)⟩
  split
  · next one two three =>
      exact ⟨_, _, rfl, next_of_three rest (by omega) (by omega) (by omega)⟩
  · next one two three => exact ⟨_, _, rfl, next_of_four rest (by omega) (by omega)⟩

/-! ### Texts -/

/-- What has been written falls into its characters. -/
theorem pieces_encode (chars : List Char) : pieces (encode chars) = chars.map .char := by
  induction chars with
  | nil =>
      rw [encode_nil, pieces]
      rfl
  | cons c rest ih =>
      obtain ⟨b, others, writes, reads⟩ := next_utf8EncodeChar c (encode rest)
      have cut : encode (c :: rest) = b :: (others ++ encode rest) := by
        rw [encode, List.flatMap_cons, writes, List.cons_append, encode]
      rw [cut, pieces, reads, ih, List.map_cons]

/-- Encoded characters are decoded again. -/
theorem decode?_encode (chars : List Char) : decode? (encode chars) = some chars := by
  have each : (chars.map Piece.char).mapM Piece.char? = some (chars.map id) := by
    rw [List.mapM_map]
    exact List.mapM_pure
  rw [decode?, pieces_encode, each, List.map_id]

/-- Text comes back from its bytes. -/
theorem text?_ofText (text : String) : text? (ofText text) = some text := by
  rw [text?, ofText, decode?_encode, Option.map_some, String.ofList_toList]

/-- Different texts have different bytes. -/
theorem ofText_injective {first second : String} (same : ofText first = ofText second) :
    first = second := by
  have read := congrArg text? same
  rw [text?_ofText, text?_ofText] at read
  exact Option.some.inj read

section Strict

variable {seen rest left : Bytes} {more bits low high v : Nat} {c : Char} {b b₁ b₂ b₃ : UInt8}

/-- A character that is still owed bytes is read only where the next one is there and in range. -/
theorem follow_eq_char (reads : follow seen (more + 1) bits low high rest = (.char c, left)) :
    ∃ b others, rest = b :: others ∧ (low ≤ b.toNat ∧ b.toNat ≤ high) ∧
      follow (seen ++ [b]) more (bits * 64 + (b.toNat - 0x80)) 0x80 0xBF others
        = (.char c, left) := by
  cases rest with
  | nil =>
      rw [follow] at reads
      cases reads
  | cons b others =>
      rw [follow] at reads
      split at reads
      · next inside => exact ⟨b, others, rfl, inside, reads⟩
      · cases reads

theorem follow_eq_last (reads : follow seen 0 bits low high rest = (.char c, left)) :
    c = Char.ofNat bits ∧ left = rest := by
  rw [follow, Prod.mk.injEq, Piece.char.injEq] at reads
  exact ⟨reads.1.symm, reads.2.symm⟩

theorem toNat_val_ofNat (valid : v < 0xD800 ∨ 0xDFFF < v ∧ v < 0x110000) :
    (Char.ofNat v).val.toNat = v := by
  have valid : v.isValidChar := valid
  rw [Char.ofNat, dif_pos valid]
  rfl

theorem ofNat_eq {n : Nat} (same : n = b.toNat) : UInt8.ofNat n = b := by
  rw [same, UInt8.ofNat_toNat]

theorem encode_of_one (low : b.toNat < 0x80) :
    String.utf8EncodeChar (Char.ofNat b.toNat) = [b] := by
  have number := toNat_val_ofNat (v := b.toNat) (.inl (by omega))
  rw [String.utf8EncodeChar]
  simp only [number]
  rw [if_pos (by omega), UInt8.ofNat_toNat]

theorem encode_of_two (first : 0xC2 ≤ b.toNat ∧ b.toNat < 0xE0)
    (second : 0x80 ≤ b₁.toNat ∧ b₁.toNat ≤ 0xBF) :
    String.utf8EncodeChar (Char.ofNat ((b.toNat - 0xC0) * 64 + (b₁.toNat - 0x80))) = [b, b₁] := by
  have number := toNat_val_ofNat (v := (b.toNat - 0xC0) * 64 + (b₁.toNat - 0x80)) (.inl (by omega))
  rw [String.utf8EncodeChar]
  simp only [number]
  rw [if_neg (by omega), if_pos (by omega), ofNat_eq (b := b) (by omega),
    ofNat_eq (b := b₁) (by omega)]

/-- Three bytes encode the character that is read from them; the bounds of the second byte leave out
short forms and surrogates. -/
theorem encode_of_three (first : 0xE0 ≤ b.toNat ∧ b.toNat < 0xF0)
    (second : (if b.toNat = 0xE0 then 0xA0 else 0x80) ≤ b₁.toNat ∧
      b₁.toNat ≤ if b.toNat = 0xED then 0x9F else 0xBF)
    (third : 0x80 ≤ b₂.toNat ∧ b₂.toNat ≤ 0xBF) :
    String.utf8EncodeChar (Char.ofNat
        (((b.toNat - 0xE0) * 64 + (b₁.toNat - 0x80)) * 64 + (b₂.toNat - 0x80)))
      = [b, b₁, b₂] := by
  have range : 0x80 ≤ b₁.toNat ∧ b₁.toNat ≤ 0xBF ∧ (b.toNat = 0xE0 → 0xA0 ≤ b₁.toNat) ∧
      (b.toNat = 0xED → b₁.toNat ≤ 0x9F) := by
    split at second <;> split at second <;> omega
  clear second
  have number := toNat_val_ofNat
    (v := ((b.toNat - 0xE0) * 64 + (b₁.toNat - 0x80)) * 64 + (b₂.toNat - 0x80)) (by omega)
  rw [String.utf8EncodeChar]
  simp only [number]
  rw [if_neg (by omega), if_neg (by omega), if_pos (by omega), ofNat_eq (b := b) (by omega),
    ofNat_eq (b := b₁) (by omega), ofNat_eq (b := b₂) (by omega)]

theorem encode_of_four (first : 0xF0 ≤ b.toNat ∧ b.toNat ≤ 0xF4)
    (second : (if b.toNat = 0xF0 then 0x90 else 0x80) ≤ b₁.toNat ∧
      b₁.toNat ≤ if b.toNat = 0xF4 then 0x8F else 0xBF)
    (third : 0x80 ≤ b₂.toNat ∧ b₂.toNat ≤ 0xBF) (fourth : 0x80 ≤ b₃.toNat ∧ b₃.toNat ≤ 0xBF) :
    String.utf8EncodeChar (Char.ofNat
        ((((b.toNat - 0xF0) * 64 + (b₁.toNat - 0x80)) * 64 + (b₂.toNat - 0x80)) * 64
          + (b₃.toNat - 0x80)))
      = [b, b₁, b₂, b₃] := by
  have range : 0x80 ≤ b₁.toNat ∧ b₁.toNat ≤ 0xBF ∧ (b.toNat = 0xF0 → 0x90 ≤ b₁.toNat) ∧
      (b.toNat = 0xF4 → b₁.toNat ≤ 0x8F) := by
    split at second <;> split at second <;> omega
  clear second
  have number := toNat_val_ofNat
    (v := (((b.toNat - 0xF0) * 64 + (b₁.toNat - 0x80)) * 64 + (b₂.toNat - 0x80)) * 64
      + (b₃.toNat - 0x80)) (by omega)
  rw [String.utf8EncodeChar]
  simp only [number]
  rw [if_neg (by omega), if_neg (by omega), if_neg (by omega), ofNat_eq (b := b) (by omega),
    ofNat_eq (b := b₁) (by omega), ofNat_eq (b := b₂) (by omega), ofNat_eq (b := b₃) (by omega)]

/-- What is read as a character is what would be written for it. -/
theorem next_eq_char (reads : next b rest = (.char c, left)) :
    b :: rest = String.utf8EncodeChar c ++ left := by
  by_cases one : b.toNat < 0x80
  · rw [next_of_lead (lead?_of_one one)] at reads
    obtain ⟨spelled, same⟩ := follow_eq_last reads
    rw [spelled, same, encode_of_one one]
    rfl
  by_cases two : 0xC2 ≤ b.toNat ∧ b.toNat < 0xE0
  · rw [next_of_lead (lead?_of_two two.1 two.2)] at reads
    obtain ⟨b₁, others, rfl, second, reads⟩ := follow_eq_char reads
    obtain ⟨spelled, same⟩ := follow_eq_last reads
    rw [spelled, same, encode_of_two two second]
    rfl
  by_cases three : 0xE0 ≤ b.toNat ∧ b.toNat < 0xF0
  · rw [next_of_lead (lead?_of_three three.1 three.2)] at reads
    obtain ⟨b₁, others, rfl, second, reads⟩ := follow_eq_char reads
    obtain ⟨b₂, others, rfl, third, reads⟩ := follow_eq_char reads
    obtain ⟨spelled, same⟩ := follow_eq_last reads
    rw [spelled, same, encode_of_three three second third]
    rfl
  by_cases four : 0xF0 ≤ b.toNat ∧ b.toNat ≤ 0xF4
  · rw [next_of_lead (lead?_of_four four.1 four.2)] at reads
    obtain ⟨b₁, others, rfl, second, reads⟩ := follow_eq_char reads
    obtain ⟨b₂, others, rfl, third, reads⟩ := follow_eq_char reads
    obtain ⟨b₃, others, rfl, fourth, reads⟩ := follow_eq_char reads
    obtain ⟨spelled, same⟩ := follow_eq_last reads
    rw [spelled, same, encode_of_four four second third fourth]
    rfl
  · have none : lead? b.toNat = none := by
      unfold lead?
      repeat' split
      all_goals first | rfl | omega
    rw [next, none] at reads
    cases reads

/-- Bytes that can be decoded are the encoding of the characters. -/
theorem encode_of_decode? {bytes : Bytes} {chars : List Char}
    (reads : decode? bytes = some chars) : encode chars = bytes := by
  unfold decode? at reads
  induction bytes using pieces.induct generalizing chars with
  | case1 =>
      rw [pieces] at reads
      cases reads
      rfl
  | case2 b rest ih =>
      rw [pieces, List.mapM_cons] at reads
      rcases piece : next b rest with ⟨c | broken, left⟩
      · rw [piece] at reads ih
        obtain ⟨others, readsOthers, rfl⟩ :
            ∃ others, (pieces left).mapM Piece.char? = some others ∧ c :: others = chars := by
          simpa [Piece.char?, Option.bind_eq_some_iff] using reads
        rw [next_eq_char piece, encode, List.flatMap_cons]
        exact congrArg (String.utf8EncodeChar c ++ ·) (ih readsOthers)
      · rw [piece] at reads
        cases reads

/-- Only the bytes of a text are read as it. -/
theorem ofText_of_text? {bytes : Bytes} {text : String} (reads : text? bytes = some text) :
    ofText text = bytes := by
  obtain ⟨chars, decodes, rfl⟩ := Option.map_eq_some_iff.mp reads
  rw [ofText, String.toList_ofList, encode_of_decode? decodes]

end Strict

end ObjectVault.Utf8
