import ObjectVault.Json.Forms
import ObjectVault.Proofs.Client.Refusals
import ObjectVault.Proofs.ObjectKey.Separation
import ObjectVault.Proofs.Service.Contract

/-!
# Texts that are keys

Which texts are keys, and what can be relied on about a key wherever it comes from. A text that is no
key is refused for the first of three reasons (`ofText_eq_error_iff`), in JSON with the same words. A
key always passes the check of the service on ids (`objectId?_bytes`), although the service knows
nothing of keys and checks bytes; so no client of a backend of the library ever hears that its
parameters are bad (`never_bad_parameters_in_memory`, `never_bad_parameters_in_directory`).

Keys are ordered as words in a dictionary of bytes are (`compare_eq_lt_iff`). `ofText_spec` states all
of this.
-/

namespace ObjectVault

/-! ### The order of bytes -/

/-- The first byte in which two sequences differ decides; a sequence comes after its own starts. -/
theorem Bytes.compare_eq_lt_iff {a b : Bytes} : compare a b = .lt ↔ List.Lex (· < ·) a b := by
  induction a generalizing b with
  | nil =>
      cases b with
      | nil => exact ⟨nofun, nofun⟩
      | cons y ys => exact ⟨fun _ => .nil, fun _ => rfl⟩
  | cons x xs ih =>
      cases b with
      | nil => exact ⟨nofun, nofun⟩
      | cons y ys =>
          have later : List.compareLex compare xs ys = .lt ↔ List.Lex (· < ·) xs ys := by
            rw [← ih, List.compare_eq_compareLex]
          rw [List.compare_eq_compareLex, List.compareLex_cons_cons, Ordering.then_eq_lt, later,
            List.cons_lex_cons_iff, Std.compare_eq_lt, Std.LawfulEqOrd.compare_eq_iff_eq]

namespace ObjectKey

/-! ### Refused texts -/

section Refused

variable {text : String}

/-- A text that is no key is empty, or else too long, or else holds a NUL. -/
theorem ofText_eq_error_iff {cause : ValueError} :
    ofText text = .error cause ↔
      cause = .emptyKey ∧ text = "" ∨
      cause = .keyTooLong (Utf8.ofText text).length ∧ 64 < (Utf8.ofText text).length ∨
      cause = .keyContainsNul ∧ (Utf8.ofText text).length ≤ 64 ∧ 0 ∈ Utf8.ofText text := by
  have empty : Utf8.ofText text = [] ↔ text = "" := by
    constructor
    · intro none
      exact Utf8.ofText_injective (none.trans rfl)
    · rintro rfl
      rfl
  by_cases none : Utf8.ofText text = []
  · rw [ofText, dif_pos none, ← empty, none]
    simp [eq_comm]
  by_cases fits : (Utf8.ofText text).length ≤ maxKeyLength
  · have short : (Utf8.ofText text).length ≤ 64 := fits
    by_cases nul : 0 ∈ Utf8.ofText text
    · rw [ofText, dif_neg none, dif_pos fits, dif_pos nul, ← empty]
      simp [none, short, nul, eq_comm]
    · rw [ofText, dif_neg none, dif_pos fits, dif_neg nul, ← empty]
      simp [none, short, nul]
  · have long : 64 < (Utf8.ofText text).length := Nat.lt_of_not_le fits
    rw [ofText, dif_neg none, dif_neg fits, ← empty]
    simp [none, long, Nat.not_le.mpr long, eq_comm]

/-- The message names the length of the text and the limit. -/
theorem message_keyTooLong (length : Nat) : (ValueError.keyTooLong length).message
    = "object key is " ++ toString length ++ " bytes, must be a maximum of 64" := by
  have limit : " bytes, must be a maximum of " ++ toString maxKeyLength
      = " bytes, must be a maximum of 64" := by decide
  have wording : (ValueError.keyTooLong length).message
      = "object key is " ++ toString length
        ++ (" bytes, must be a maximum of " ++ toString maxKeyLength) := String.append_assoc
  rw [wording, limit]

/-- In JSON, a text is the key that it is anywhere else. -/
theorem ofJson_string (text : String) : ofJson (.string text) = (ofText text).mapError .badKey := rfl

end Refused

/-! ### Keys at the service -/

/-- The ways to come by a key. -/
inductive Obtained : ObjectKey → Prop where
  | ofText {text : String} {key : ObjectKey} (made : ObjectKey.ofText text = .ok key) : Obtained key
  | ofJson {value : Json} {key : ObjectKey} (made : ObjectKey.ofJson value = .ok key) : Obtained key
  | namespacedAll {digest : Bytes → Digest} {space : String} {names : List String}
      {keys : List ObjectKey} {key : ObjectKey}
      (made : namespacedAllWith digest space names = .ok keys) (member : key ∈ keys) : Obtained key
  | namespaced {digest : Bytes → Digest} {space name : String} {key : ObjectKey}
      (made : namespacedWith digest space name = .ok key) : Obtained key

/-- However a key has been obtained, its text has passed the one check that there is. -/
theorem Obtained.ofText_text {key : ObjectKey} (obtained : Obtained key) :
    ∃ text, ObjectKey.ofText text = .ok key := by
  cases obtained with
  | @ofText text key made => exact ⟨text, made⟩
  | @ofJson value key made =>
      obtain ⟨text, -, reads⟩ := bind_eq_ok_iff.mp made
      exact ⟨text, mapError_eq_ok_iff.mp reads⟩
  | @namespacedAll digest space names keys key made member =>
      have texts := (namespacedAllWith_eq_ok_iff digest space).mp made
      have spelled : key.text ∈ names.map (groupStem digest space names ++ "/" ++ ·) := by
        rw [← texts]
        exact List.mem_map_of_mem member
      obtain ⟨name, -, same⟩ := List.mem_map.mp spelled
      exact ⟨_, ofText_eq_ok_iff.mpr same.symm⟩
  | @namespaced digest space name key made =>
      exact ⟨_, (namespacedWith_eq digest space name).symm.trans made⟩

/-- The service takes the bytes of a text that is a key as an id. -/
theorem objectId?_bytes {text : String} {key : ObjectKey} (made : ObjectKey.ofText text = .ok key)
    {op : Operation} (first : op.first = .input (Utf8.ofText text)) :
    Service.objectId? op = some (Utf8.ofText text) := by
  obtain ⟨nonempty, fits, -⟩ := Client.ofText_isOk_iff.mp ⟨key, made⟩
  exact Service.objectId?_of_valid ⟨nonempty, fits⟩ first

/-- Without faults, no parameters are bad in memory. -/
theorem never_bad_parameters_in_memory {memory : Memory} (sound : memory.faults = .none) :
    Client.NeverRefuses Memory.backend memory .badParameters := by
  apply Client.neverRefuses_of_orders
  intro client order failure refuses
  rcases Memory.refusal_of_sound sound refuses with rfl | rfl | rfl
  · decide
  · decide
  · decide

/-- No parameters are bad in a directory, whatever the file tree looks like. -/
theorem never_bad_parameters_in_directory (store : DirectoryStore) (tree : FileTree) :
    Client.NeverRefuses store.backend tree .badParameters := by
  apply Client.neverRefuses_of_orders
  intro client order failure refuses
  rcases DirectoryStore.refusal_cases refuses with rfl | rfl | rfl | rfl | rfl
  · decide
  · decide
  · decide
  · decide
  · decide

/-! ### The order of keys -/

section Order

variable {a b : ObjectKey}

/-- Keys are in the order of their bytes. -/
theorem compare_eq_lt_iff : compare a b = .lt ↔ List.Lex (· < ·) a.bytes b.bytes :=
  Bytes.compare_eq_lt_iff

theorem compare_eq_gt_iff : compare a b = .gt ↔ List.Lex (· < ·) b.bytes a.bytes := by
  have flipped : compare a.bytes b.bytes = .gt ↔ compare b.bytes a.bytes = .lt :=
    Std.OrientedCmp.gt_iff_lt
  rw [← compare_eq_lt_iff]
  exact flipped

theorem compare_eq_eq_iff : compare a b = .eq ↔ a.text = b.text := by
  have bytes : compare a.bytes b.bytes = .eq ↔ a.bytes = b.bytes :=
    Std.LawfulEqOrd.compare_eq_iff_eq
  refine Iff.trans bytes ?_
  constructor
  · exact text_of_same_bytes
  · intro same
    rw [ObjectKey.bytes, same, ObjectKey.bytes]

end Order

/-! ### All of it -/

/-- A text is a key where it has one to sixty-four bytes and no NUL, and is kept as it is; every other
text is refused for the first reason there is, in JSON with the same words. However a key has been
obtained, the service takes its bytes as an id, so that no call of a client is refused for bad
parameters. Keys are ordered by their bytes, and only one text makes two keys equal. -/
theorem ofText_spec :
    (∀ text : String,
      let bytes := Utf8.ofText text
      ((∃ key, ofText text = .ok key) ↔ 1 ≤ bytes.length ∧ bytes.length ≤ 64 ∧ 0 ∉ bytes) ∧
      (∀ key, ofText text = .ok key →
        key.text = text ∧ key.bytes = bytes ∧ key.length = bytes.length ∧
          key.json = .string text) ∧
      (∀ cause, ofText text = .error cause ↔
        cause = .emptyKey ∧ text = "" ∨
        cause = .keyTooLong bytes.length ∧ 64 < bytes.length ∨
        cause = .keyContainsNul ∧ bytes.length ≤ 64 ∧ 0 ∈ bytes) ∧
      (∀ key, ofJson (.string text) = .ok key ↔ ofText text = .ok key) ∧
      ∀ cause, ofText text = .error cause →
        ∃ error, ofJson (.string text) = .error error ∧ error.message = cause.message) ∧
    (∀ length, (ValueError.keyTooLong length).message
      = "object key is " ++ toString length ++ " bytes, must be a maximum of 64") ∧
    (∀ key, Obtained key → ∀ op : Operation, op.first = .input key.bytes →
      Service.objectId? op = some key.bytes) ∧
    (∀ memory : Memory, memory.faults = .none →
      Client.NeverRefuses Memory.backend memory .badParameters) ∧
    (∀ (store : DirectoryStore) (tree : FileTree),
      Client.NeverRefuses store.backend tree .badParameters) ∧
    ∀ a b : ObjectKey,
      (compare a b = .lt ↔ List.Lex (· < ·) a.bytes b.bytes) ∧
      (compare a b = .eq ↔ a.text = b.text) ∧
      (compare a b = .gt ↔ List.Lex (· < ·) b.bytes a.bytes) := by
  refine ⟨?_, message_keyTooLong, ?_, fun _ sound => never_bad_parameters_in_memory sound,
    never_bad_parameters_in_directory,
    fun _ _ => ⟨compare_eq_lt_iff, compare_eq_eq_iff, compare_eq_gt_iff⟩⟩
  · intro text bytes
    refine ⟨Client.ofText_isOk_iff, ?_, fun _ => ofText_eq_error_iff, ?_, ?_⟩
    · intro key made
      obtain rfl := text_of_ofText made
      exact ⟨rfl, rfl, rfl, rfl⟩
    · intro key
      rw [ofJson_string, mapError_eq_ok_iff]
    · intro cause refused
      refine ⟨.badKey cause, ?_, rfl⟩
      rw [ofJson_string, refused]
      rfl
  · intro key obtained op first
    obtain ⟨text, made⟩ := obtained.ofText_text
    have same : key.bytes = Utf8.ofText text := congrArg Utf8.ofText (text_of_ofText made)
    rw [same] at first ⊢
    exact objectId?_bytes made first

end ObjectKey

end ObjectVault
