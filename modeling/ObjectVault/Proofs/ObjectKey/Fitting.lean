import ObjectVault.Proofs.ObjectKey.Groups

/-!
# Groups whose plain keys fit

The hashed spelling is there to make keys fit, and takes over as soon as one key of the group has the
length of the limit. Such a key still fits, and where the namespace is shorter than the digits that
take its place, the keys of the group become longer by the change.

* `fits_stem_iff`: which keys of the group fit then.
* `namespacedAllWith_of_plain`: a group of plain keys yields its keys unless one of them has the length
  of the limit and some name is longer than the hashed spelling has room for.
* `namespacedAll_tooLong_of_plain`: such a group, of one name.
-/

namespace ObjectVault.ObjectKey

section Plain

variable (digest : Bytes → Digest) {space : String} {names : List String}

/-- The hashed spelling has room for forty-three bytes. -/
theorem fits_hashed_iff {name : String} (noNul : 0 ∉ Utf8.ofText name) :
    Fits (hashedNamespace digest space ++ "/" ++ name) ↔ Utf8.length name ≤ 43 := by
  rw [Fits, Utf8.length_joined, Utf8.nul_mem_joined, length_hashedNamespace, hashedNamespaceLength,
    maxKeyLength]
  constructor
  · rintro ⟨short, -⟩
    omega
  · intro room
    refine ⟨by omega, ?_⟩
    rintro (inSpace | inName)
    · exact nul_not_mem_hashedNamespace digest space inSpace
    · exact noNul inName

/-- A plain key reaches the limit by having its length. -/
theorem long_iff_of_fits {name : String} (fits : Fits (space ++ "/" ++ name)) :
    Long space name ↔ Utf8.length (space ++ "/" ++ name) = 64 := by
  have short := fits.1
  rw [maxKeyLength] at short
  rw [Long, maxKeyLength, ← Utf8.length_joined]
  omega

variable (plain : ∀ name ∈ names, ∃ key, ofText (space ++ "/" ++ name) = .ok key)
include plain

/-- A group of plain keys is respelled exactly if one of them has the length of the limit. -/
theorem stem_of_plain :
    groupStem digest space names
      = if ∃ full ∈ names, Utf8.length (space ++ "/" ++ full) = 64
          then hashedNamespace digest space else space := by
  have reaches : (∃ name ∈ names, Long space name)
      ↔ ∃ full ∈ names, Utf8.length (space ++ "/" ++ full) = 64 :=
    exists_congr fun full => and_congr_right fun member =>
      long_iff_of_fits (joined_succeeds_iff.mp (plain full member))
  rw [groupStem_eq]
  exact if_congr reaches rfl rfl

/-- In a group of plain keys, one of which has the length of the limit, the short names still fit;
without such a key all of them do. -/
theorem fits_stem_iff {name : String} (among : name ∈ names) :
    Fits (groupStem digest space names ++ "/" ++ name) ↔
      ((∃ full ∈ names, Utf8.length (space ++ "/" ++ full) = 64) → Utf8.length name ≤ 43) := by
  have fits : Fits (space ++ "/" ++ name) := joined_succeeds_iff.mp (plain name among)
  rw [stem_of_plain digest plain]
  split
  · next full =>
      have noNul : 0 ∉ Utf8.ofText name := fun nul =>
        fits.2 ((Utf8.nul_mem_joined space name).mpr (.inr nul))
      rw [fits_hashed_iff digest noNul, forall_prop_of_true full]
  · next short => exact iff_of_true fits fun full => absurd full short

/-- A group of plain keys fits exactly if it is not respelled or all names fit behind the hashed
namespace. -/
theorem succeeds_of_plain_iff :
    (∃ keys, namespacedAllWith digest space names = .ok keys) ↔
      (∀ name ∈ names, Utf8.length (space ++ "/" ++ name) ≠ 64) ∨
        ∀ name ∈ names, Utf8.length name ≤ 43 := by
  rw [namespacedAllWith_succeeds_iff]
  constructor
  · intro fits
    by_cases full : ∃ full ∈ names, Utf8.length (space ++ "/" ++ full) = 64
    · exact .inr fun name among => (fits_stem_iff digest plain among).mp (fits name among) full
    · exact .inl fun name among reaches => full ⟨name, among, reaches⟩
  · intro either name among
    rw [fits_stem_iff digest plain among]
    rintro ⟨full, member, reaches⟩
    rcases either with below | room
    · exact absurd reaches (below full member)
    · exact room name among

/-- Where plain keys become too long, they do so behind the hashed namespace. -/
theorem error_of_plain_iff {cause : ValueError} :
    namespacedAllWith digest space names = .error cause ↔
      (∃ full ∈ names, Utf8.length (space ++ "/" ++ full) = 64) ∧
        ∃ before name after, names = before ++ name :: after ∧
          (∀ earlier ∈ before, Utf8.length earlier ≤ 43) ∧ 43 < Utf8.length name ∧
          cause = .keyTooLong (21 + Utf8.length name) := by
  rw [namespacedAllWith_eq_error_iff]
  by_cases full : ∃ full ∈ names, Utf8.length (space ++ "/" ++ full) = 64
  · have fits : ∀ name ∈ names,
        (Fits (groupStem digest space names ++ "/" ++ name) ↔ Utf8.length name ≤ 43) :=
      fun name among => (fits_stem_iff digest plain among).trans (forall_prop_of_true full)
    have length (name : String) :
        Utf8.length (groupStem digest space names ++ "/" ++ name) = 21 + Utf8.length name := by
      rw [Utf8.length_joined, stem_of_plain digest plain, if_pos full, length_hashedNamespace,
        hashedNamespaceLength]
    rw [and_iff_right full]
    refine exists₃_congr fun before name after => and_congr_right fun cut => ?_
    rw [cut, List.forall_mem_append, List.forall_mem_cons, ← cut] at fits
    obtain ⟨early, here, -⟩ := fits
    rw [here, Nat.not_le, forall₂_congr early, length]
    refine and_congr_right fun _ => and_congr_right fun large => ?_
    rw [maxKeyLength, if_pos (by omega), hashedNamespaceLength]
  · constructor
    · rintro ⟨before, name, after, rfl, -, unfit, -⟩
      have among : name ∈ before ++ name :: after :=
        List.mem_append_right _ List.mem_cons_self
      exact absurd ((fits_stem_iff digest plain among).mpr fun reaches => absurd reaches full) unfit
    · rintro ⟨reaches, -⟩
      exact absurd reaches full

/-- Behind a namespace that is as long as a hashed one, plain keys always fit. -/
theorem succeeds_of_wide_space (wide : 20 ≤ Utf8.length space) :
    ∃ keys, namespacedAllWith digest space names = .ok keys := by
  refine (succeeds_of_plain_iff digest plain).mpr (.inr ?_)
  intro name among
  have fits := (joined_succeeds_iff.mp (plain name among)).1
  rw [Utf8.length_joined, maxKeyLength] at fits
  omega

/-- What becomes of a group of plain keys: its keys, unless one of them has the length of the limit
and some name is longer than forty-three bytes. The error is then that of the first such name, which
is too long behind the hashed namespace; behind a namespace of twenty bytes or more there is none. -/
theorem namespacedAllWith_of_plain :
    ((∃ keys, namespacedAllWith digest space names = .ok keys) ↔
      (∀ name ∈ names, Utf8.length (space ++ "/" ++ name) ≠ 64) ∨
        ∀ name ∈ names, Utf8.length name ≤ 43) ∧
    (∀ cause, namespacedAllWith digest space names = .error cause ↔
      (∃ full ∈ names, Utf8.length (space ++ "/" ++ full) = 64) ∧
        ∃ before name after, names = before ++ name :: after ∧
          (∀ earlier ∈ before, Utf8.length earlier ≤ 43) ∧ 43 < Utf8.length name ∧
          cause = .keyTooLong (21 + Utf8.length name)) ∧
    (20 ≤ Utf8.length space → ∃ keys, namespacedAllWith digest space names = .ok keys) := by
  exact ⟨succeeds_of_plain_iff digest plain, fun _ => error_of_plain_iff digest plain,
    succeeds_of_wide_space digest plain⟩

end Plain

/-! ### Names of one letter -/

theorem ofText_replicate (count : Nat) :
    Utf8.ofText (String.ofList (List.replicate count 'n')) = List.replicate count 0x6E := by
  rw [Utf8.ofText, String.toList_ofList]
  induction count with
  | zero => rfl
  | succ count ih =>
      rw [List.replicate_succ, List.replicate_succ, ← ih]
      rfl

theorem length_replicate (count : Nat) :
    Utf8.length (String.ofList (List.replicate count 'n')) = count := by
  rw [Utf8.length, ofText_replicate, List.length_replicate]

theorem length_joined_replicate (count : Nat) :
    Utf8.length ("s" ++ "/" ++ String.ofList (List.replicate count 'n')) = count + 2 := by
  rw [Utf8.length_joined, length_replicate, show Utf8.length "s" = 1 by decide]
  omega

theorem joined_replicate {count : Nat} (short : count ≤ 62) :
    ∃ key, ofText ("s" ++ "/" ++ String.ofList (List.replicate count 'n')) = .ok key := by
  rw [joined_succeeds_iff, Fits, length_joined_replicate, Utf8.nul_mem_joined, ofText_replicate]
  refine ⟨by rw [maxKeyLength]; omega, ?_⟩
  rintro (inSpace | inName)
  · exact absurd inSpace (by decide)
  · exact absurd (List.eq_of_mem_replicate inName) (by decide)

/-- Of two plain keys, the one with the length of the limit makes the change, and only its name has no
room behind the hashed namespace. -/
theorem namespacedAllWith_of_plain_pair :
    let short := String.ofList (List.replicate 43 'n')
    let full := String.ofList (List.replicate 62 'n')
    (∀ name ∈ [short, full], ∃ key, ofText ("s" ++ "/" ++ name) = .ok key) ∧
      namespacedAllWith Md5.digest "s" [short, full] = .error (.keyTooLong 83) := by
  intro short full
  have plain : ∀ name ∈ [short, full], ∃ key, ofText ("s" ++ "/" ++ name) = .ok key :=
    List.forall_mem_cons.mpr ⟨joined_replicate (by omega),
      List.forall_mem_singleton.mpr (joined_replicate (by omega))⟩
  have room : ∀ earlier ∈ [short], Utf8.length earlier ≤ 43 :=
    List.forall_mem_singleton.mpr (Nat.le_of_eq (length_replicate 43))
  have reaches : Utf8.length ("s" ++ "/" ++ full) = 64 := length_joined_replicate 62
  have length : Utf8.length full = 62 := length_replicate 62
  refine ⟨plain, ((namespacedAllWith_of_plain Md5.digest plain).2.1 _).mpr ?_⟩
  exact ⟨⟨full, by simp, reaches⟩, [short], full, [], rfl, room, by omega, by rw [length]⟩

/-- A plain key that has the length of the limit, and the same name behind the hashed namespace: the
change of spelling turns a group that fits into one that is too long. -/
theorem namespacedAll_tooLong_of_plain :
    let name := String.ofList (List.replicate 62 'n')
    (∃ key, ofText ("s" ++ "/" ++ name) = .ok key) ∧
      namespacedAll "s" [name] = .error (.keyTooLong 83) := by
  intro name
  have plain : ∀ other ∈ [name], ∃ key, ofText ("s" ++ "/" ++ other) = .ok key :=
    List.forall_mem_singleton.mpr (joined_replicate (by omega))
  have reaches : Utf8.length ("s" ++ "/" ++ name) = 64 := length_joined_replicate 62
  have length : Utf8.length name = 62 := length_replicate 62
  refine ⟨plain name List.mem_cons_self, ?_⟩
  rw [namespacedAll, error_of_plain_iff Md5.digest plain]
  exact ⟨⟨name, List.mem_cons_self, reaches⟩, [], name, [], rfl, nofun, by omega, by rw [length]⟩

end ObjectVault.ObjectKey
