import ObjectVault.ObjectKey.Namespace
import ObjectVault.Proofs.Results
import ObjectVault.Proofs.Text.Hexadecimal

/-!
# The keys of a group of names

One long name changes the spelling of every key in its group, so what a name becomes depends on the
names beside it. `namespacedAllWith_spec` says all that a group decides, whatever the digest is:

* `groupStem_eq`: one text stands before the slash in every key of the group;
* `namespacedAllWith_eq_ok_iff`, `namespacedAllWith_succeeds_iff`: when there are keys, and which;
* `namespacedAllWith_eq_error_iff`: the first name that yields no key gives the error, and its
  length counts before its NUL. A plain namespace never makes a text that is too long, so the length
  in the error is that of the hashed spelling (`joined_tooLong`);
* `namespacedAllWith_eq_mapM`: a group whose names agree about the limit is the same as its names
  one by one.
-/

namespace ObjectVault

/-! ### Joined texts -/

namespace Utf8

theorem ofText_joined (stem name : String) :
    ofText (stem ++ "/" ++ name) = ofText stem ++ slash :: ofText name := by
  rw [ofText, String.toList_append, String.toList_append, encode_append, encode_append,
    List.append_assoc]
  rfl

/-- A joined key is longer than its parts by the slash. -/
theorem length_joined (stem name : String) :
    length (stem ++ "/" ++ name) = length stem + 1 + length name := by
  rw [length, ofText_joined, List.length_append, List.length_cons, ← length, ← length]
  omega

theorem nul_mem_joined (stem name : String) :
    0 ∈ ofText (stem ++ "/" ++ name) ↔ 0 ∈ ofText stem ∨ 0 ∈ ofText name := by
  have other : (0 : UInt8) ≠ slash := by decide
  rw [ofText_joined, List.mem_append, List.mem_cons, or_iff_right other]

end Utf8

namespace ObjectKey

/-- What a text has to satisfy, being not empty, to be a key. -/
def Fits (text : String) : Prop := Utf8.length text ≤ maxKeyLength ∧ 0 ∉ Utf8.ofText text

section Joined

variable {text stem name : String}

/-- A text makes the key whose text it is, and no other. -/
theorem ofText_eq_ok_iff {key : ObjectKey} : ofText text = .ok key ↔ key.text = text := by
  constructor
  · exact text_of_ofText
  · rintro rfl
    exact ofText_text key

theorem joined_nonempty (stem name : String) : Utf8.ofText (stem ++ "/" ++ name) ≠ [] := by
  rw [Utf8.ofText_joined]
  exact List.append_ne_nil_of_right_ne_nil _ (List.cons_ne_nil _ _)

/-- A joined text is never empty, so that it makes a key exactly if it fits. -/
theorem joined_succeeds_iff :
    (∃ key, ofText (stem ++ "/" ++ name) = .ok key) ↔ Fits (stem ++ "/" ++ name) := by
  constructor
  · rintro ⟨key, made⟩
    rw [← ofText_eq_ok_iff.mp made]
    exact ⟨key.fits, key.noNul⟩
  · rintro ⟨short, noNul⟩
    exact ⟨⟨_, joined_nonempty stem name, short, noNul⟩, ofText_eq_ok_iff.mpr rfl⟩

/-- A joined text is refused for its length first, and never for being empty. -/
theorem joined_eq_error_iff {cause : ValueError} :
    ofText (stem ++ "/" ++ name) = .error cause ↔
      ¬ Fits (stem ++ "/" ++ name) ∧
        cause = if maxKeyLength < Utf8.length (stem ++ "/" ++ name)
          then .keyTooLong (Utf8.length (stem ++ "/" ++ name)) else .keyContainsNul := by
  rw [ofText, dif_neg (joined_nonempty stem name), Fits, Utf8.length]
  by_cases short : (Utf8.ofText (stem ++ "/" ++ name)).length ≤ maxKeyLength
  · rw [dif_pos short, if_neg (Nat.not_lt.mpr short)]
    by_cases nul : 0 ∈ Utf8.ofText (stem ++ "/" ++ name)
    · rw [dif_pos nul, Except.error.injEq, eq_comm]
      exact ⟨fun same => ⟨fun fits => fits.2 nul, same⟩, And.right⟩
    · rw [dif_neg nul]
      constructor
      · intro same
        cases same
      · intro refused
        exact absurd ⟨short, nul⟩ refused.1
  · rw [dif_neg short, if_pos (Nat.lt_of_not_le short), Except.error.injEq, eq_comm]
    exact ⟨fun same => ⟨fun fits => short fits.1, same⟩, And.right⟩

end Joined

/-! ### The text before the slash -/

section Stems

variable (digest : Bytes → Digest) (space : String) (names : List String)

/-- A name that would reach the limit behind the plain namespace. -/
def Long (space name : String) : Prop :=
  maxKeyLength ≤ Utf8.length space + 1 + Utf8.length name

instance (space name : String) : Decidable (Long space name) := inferInstanceAs (Decidable (_ ≤ _))

/-- The check of a group finds a name that reaches the limit behind the namespace, if there is one. -/
theorem reachesLimit_iff : reachesLimit space names = true ↔ ∃ name ∈ names, Long space name := by
  simp only [reachesLimit, List.any_eq_true, decide_eq_true_eq, Long]

/-- One long name is enough for the whole group to be put behind the hashed namespace. -/
theorem groupStem_eq :
    groupStem digest space names
      = if ∃ name ∈ names, Long space name then hashedNamespace digest space else space := by
  rw [groupStem]
  exact if_congr (reachesLimit_iff space names) rfl rfl

theorem ordinary_hashedNamespace :
    ∀ c ∈ (hashedNamespace digest space).toList, Utf8.Ordinary c := by
  intro c member
  rw [hashedNamespace, String.toList_ofList] at member
  exact ordinary_hexDigits _ c (List.mem_of_mem_take member)

theorem length_hashedNamespace :
    Utf8.length (hashedNamespace digest space) = hashedNamespaceLength := by
  have digits := Bytes.length_hexDigits (digest (Utf8.ofText space)).1
  rw [(digest (Utf8.ofText space)).2] at digits
  rw [Utf8.length, Utf8.ofText, Utf8.length_encode (ordinary_hashedNamespace digest space),
    hashedNamespace, String.toList_ofList, List.length_take, digits]
  rfl

theorem nul_not_mem_hashedNamespace : 0 ∉ Utf8.ofText (hashedNamespace digest space) := by
  intro member
  obtain ⟨c, among, within⟩ := List.mem_flatMap.mp member
  exact (ordinary_hashedNamespace digest space c among).2.2 within

end Stems

/-! ### Groups -/

section Groups

variable (digest : Bytes → Digest) (space : String) {names : List String}

/-- Only the hashed spelling of a name of the group can be too long. -/
theorem joined_tooLong {name : String} (among : name ∈ names)
    (tooLong : maxKeyLength < Utf8.length (groupStem digest space names ++ "/" ++ name)) :
    Utf8.length (groupStem digest space names ++ "/" ++ name)
      = hashedNamespaceLength + 1 + Utf8.length name := by
  rw [Utf8.length_joined, groupStem_eq] at *
  by_cases long : ∃ name ∈ names, Long space name
  · rw [if_pos long, length_hashedNamespace]
  · rw [if_neg long] at tooLong
    exact absurd ⟨name, among, Nat.le_of_lt tooLong⟩ long

/-- A group succeeds exactly with the keys whose texts are its names behind the stem, in order. -/
theorem namespacedAllWith_eq_ok_iff {keys : List ObjectKey} :
    namespacedAllWith digest space names = .ok keys ↔
      keys.map ObjectKey.text = names.map (groupStem digest space names ++ "/" ++ ·) := by
  have each : (fun name key => ofText (groupStem digest space names ++ "/" ++ name) = .ok key)
      = fun name key => groupStem digest space names ++ "/" ++ name = key.text := by
    funext name key
    exact propext (ofText_eq_ok_iff.trans eq_comm)
  rw [namespacedAllWith, mapM_eq_ok_iff, each, eq_comm, ← List.forall₂_eq_eq_eq,
    List.forall₂_map_left_iff, List.forall₂_map_right_iff]

/-- A group fails as its first name that yields no key. -/
theorem namespacedAllWith_eq_error_iff {cause : ValueError} :
    namespacedAllWith digest space names = .error cause ↔
      ∃ before name after, names = before ++ name :: after ∧
        (∀ earlier ∈ before, Fits (groupStem digest space names ++ "/" ++ earlier)) ∧
        ¬ Fits (groupStem digest space names ++ "/" ++ name) ∧
        cause = if maxKeyLength < Utf8.length (groupStem digest space names ++ "/" ++ name)
          then .keyTooLong (hashedNamespaceLength + 1 + Utf8.length name) else .keyContainsNul := by
  rw [namespacedAllWith, mapM_eq_error_iff]
  simp only [joined_succeeds_iff, joined_eq_error_iff]
  refine exists₃_congr fun before name after => and_congr_right fun cut =>
    and_congr_right fun _ => and_congr_right fun _ => ?_
  have among : name ∈ names := by
    rw [cut]
    exact List.mem_append_right _ List.mem_cons_self
  -- the two lengths are only compared where the text is too long
  split
  · next tooLong => rw [joined_tooLong digest space among tooLong]
  · rfl

theorem namespacedAllWith_ne_emptyKey :
    namespacedAllWith digest space names ≠ .error .emptyKey := by
  intro empty
  obtain ⟨before, name, after, -, -, -, cause⟩ :=
    (namespacedAllWith_eq_error_iff digest space).mp empty
  split at cause
  · cases cause
  · cases cause

/-- A group succeeds exactly if every name fits behind the stem of the group. -/
theorem namespacedAllWith_succeeds_iff :
    (∃ keys, namespacedAllWith digest space names = .ok keys) ↔
      ∀ name ∈ names, Fits (groupStem digest space names ++ "/" ++ name) := by
  constructor
  · rintro ⟨keys, made⟩ name among
    have spelled : groupStem digest space names ++ "/" ++ name ∈ keys.map ObjectKey.text := by
      rw [(namespacedAllWith_eq_ok_iff digest space).mp made]
      exact List.mem_map_of_mem among
    obtain ⟨key, -, same⟩ := List.mem_map.mp spelled
    rw [← same]
    exact ⟨key.fits, key.noNul⟩
  · intro fits
    cases made : namespacedAllWith digest space names with
    | ok keys => exact ⟨keys, rfl⟩
    | error cause =>
        obtain ⟨before, name, after, rfl, -, bad, -⟩ :=
          (namespacedAllWith_eq_error_iff digest space).mp made
        exact absurd (fits name (List.mem_append_right _ List.mem_cons_self)) bad

/-- A NUL in the namespace does no harm where the digest hides it or where there is no name. -/
theorem namespacedAllWith_succeeds_iff_of_nul :
    (∃ keys, namespacedAllWith digest space names = .ok keys) ↔
      (0 ∈ Utf8.ofText space → (∃ name ∈ names, Long space name) ∨ names = []) ∧
        ∀ name ∈ names, Utf8.length (groupStem digest space names) + 1 + Utf8.length name
          ≤ maxKeyLength ∧ 0 ∉ Utf8.ofText name := by
  rw [namespacedAllWith_succeeds_iff]
  simp only [Fits, Utf8.length_joined, Utf8.nul_mem_joined, not_or]
  constructor
  · intro fits
    constructor
    · intro nul
      by_cases long : ∃ name ∈ names, Long space name
      · exact .inl long
      · rw [groupStem_eq, if_neg long] at fits
        cases names with
        | nil => exact .inr rfl
        | cons name rest => exact absurd nul (fits name List.mem_cons_self).2.1
    · intro name among
      exact ⟨(fits name among).1, (fits name among).2.2⟩
  · rintro ⟨hidden, each⟩ name among
    refine ⟨(each name among).1, ?_, (each name among).2⟩
    rw [groupStem_eq]
    split
    · exact nul_not_mem_hashedNamespace digest space
    · next short =>
        intro nul
        rcases hidden nul with long | rfl
        · exact short long
        · cases among

/-! ### One name -/

theorem namespacedWith_eq (name : String) :
    namespacedWith digest space name
      = ofText (groupStem digest space [name] ++ "/" ++ name) := by
  rw [namespacedWith, namespacedAllWith, List.mapM_cons, List.mapM_nil]
  cases ofText (groupStem digest space [name] ++ "/" ++ name) with
  | error cause => rfl
  | ok key => rfl

/-- A group of one is the key of its name alone. -/
theorem namespacedAllWith_singleton (name : String) :
    namespacedAllWith digest space [name] = (namespacedWith digest space name).map ([·]) := by
  rw [namespacedWith_eq, namespacedAllWith, List.mapM_cons, List.mapM_nil]
  cases ofText (groupStem digest space [name] ++ "/" ++ name) with
  | error cause => rfl
  | ok key => rfl

/-- Names on one side of the limit choose as one what each of them would choose alone. -/
theorem groupStem_of_agree {name : String} (among : name ∈ names)
    (agree : (∀ name ∈ names, Long space name) ∨ ∀ name ∈ names, ¬ Long space name) :
    groupStem digest space names = groupStem digest space [name] := by
  rw [groupStem_eq, groupStem_eq]
  rcases agree with long | short
  · rw [if_pos ⟨name, among, long name among⟩,
      if_pos ⟨name, List.mem_singleton_self name, long name among⟩]
  · have alone : ¬ ∃ other ∈ [name], Long space other := by
      rintro ⟨other, member, long⟩
      rw [List.mem_singleton.mp member] at long
      exact short name among long
    rw [if_neg fun ⟨other, member, long⟩ => short other member long, if_neg alone]

/-- Where all names are long, or none is, the keys of a group are those of its names one by one. -/
theorem namespacedAllWith_eq_mapM
    (agree : (∀ name ∈ names, Long space name) ∨ ∀ name ∈ names, ¬ Long space name) :
    namespacedAllWith digest space names = names.mapM (namespacedWith digest space) := by
  rw [namespacedAllWith]
  apply mapM_congr
  intro name among
  rw [groupStem_of_agree digest space among agree, namespacedWith_eq]

end Groups

/-! ### All of it -/

/-- What a group of names becomes in a namespace, for any digest: the text before the slash is the
start of the digest where some key would reach the limit, and the namespace itself otherwise; there
are keys just where every joined text is short enough and free of NULs, and they are these texts in
the order of the names; a group that has no keys fails as its first bad name, whose length counts
before its NUL. One name alone is a group, and a group on one side of the limit is its names, each
alone. -/
theorem namespacedAllWith_spec (digest : Bytes → Digest) (space : String) (names : List String) :
    let start := String.ofList ((Bytes.hexDigits (digest (Utf8.ofText space)).1).take 20)
    let long := fun name => 64 ≤ Utf8.length space + 1 + Utf8.length name
    let stem := if ∃ name ∈ names, long name then start else space
    let fits := fun name =>
      Utf8.length (stem ++ "/" ++ name) ≤ 64 ∧ 0 ∉ Utf8.ofText (stem ++ "/" ++ name)
    (∀ keys, namespacedAllWith digest space names = .ok keys ↔
      keys.map ObjectKey.text = names.map (stem ++ "/" ++ ·)) ∧
    ((∃ keys, namespacedAllWith digest space names = .ok keys) ↔ ∀ name ∈ names, fits name) ∧
    ((∃ keys, namespacedAllWith digest space names = .ok keys) ↔
      (0 ∈ Utf8.ofText space → (∃ name ∈ names, long name) ∨ names = []) ∧
        ∀ name ∈ names, Utf8.length stem + 1 + Utf8.length name ≤ 64 ∧ 0 ∉ Utf8.ofText name) ∧
    (∀ cause, namespacedAllWith digest space names = .error cause ↔
      ∃ before name after, names = before ++ name :: after ∧
        (∀ earlier ∈ before, fits earlier) ∧ ¬ fits name ∧
        cause = if 64 < Utf8.length (stem ++ "/" ++ name)
          then .keyTooLong (21 + Utf8.length name) else .keyContainsNul) ∧
    namespacedAllWith digest space names ≠ .error .emptyKey ∧
    (∀ name, namespacedAllWith digest space [name]
      = (namespacedWith digest space name).map ([·])) ∧
    ((∀ name ∈ names, long name) ∨ (∀ name ∈ names, ¬ long name) →
      namespacedAllWith digest space names = names.mapM (namespacedWith digest space)) := by
  intro start long stem fits
  have chosen : stem = groupStem digest space names := (groupStem_eq digest space names).symm
  clear_value stem
  subst chosen
  exact ⟨fun _ => namespacedAllWith_eq_ok_iff digest space,
    namespacedAllWith_succeeds_iff digest space,
    namespacedAllWith_succeeds_iff_of_nul digest space,
    fun _ => namespacedAllWith_eq_error_iff digest space,
    namespacedAllWith_ne_emptyKey digest space,
    namespacedAllWith_singleton digest space,
    namespacedAllWith_eq_mapM digest space⟩

end ObjectKey

end ObjectVault
