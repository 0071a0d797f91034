import ObjectVault.Proofs.ObjectKey.Groups
import ObjectVault.Proofs.Text.Utf8

/-!
# Namespaces keep objects apart

A key can be cut at its first slash in one way as long as no namespace holds a slash, and no digit
is one. So two keys that a service takes for one (`text_of_same_bytes`) have one name and one text
before it, and the rest is how two namespaces come to have the same text there:
`namespacedWith_separates` leaves nothing but the namespaces being one, two digests starting alike,
and a namespace that spells the start of another one's digest. The last does happen
(`namespacedWith_separates_spelled`).

Within one group the text before the slash is shared, whatever it holds, so that different names
never meet (`names_of_same_bytes`).
-/

namespace ObjectVault

/-! ### Cutting at the first slash -/

section Cuts

variable {before before₁ before₂ after after₁ after₂ : List Char}

theorem takeWhile_cut (flat : '/' ∉ before) :
    (before ++ '/' :: after).takeWhile (· != '/') = before := by
  have plain : ∀ c ∈ before, (c != '/') = true := by
    intro c member
    exact bne_iff_ne.mpr fun same => flat (same ▸ member)
  rw [List.takeWhile_append_of_pos plain, List.takeWhile_cons_of_neg (by decide), List.append_nil]

/-- A text is cut at its first slash in one way only. -/
theorem cut_unique (flat₁ : '/' ∉ before₁) (flat₂ : '/' ∉ before₂)
    (same : before₁ ++ '/' :: after₁ = before₂ ++ '/' :: after₂) :
    before₁ = before₂ ∧ after₁ = after₂ := by
  have first : before₁ = before₂ := by
    rw [← takeWhile_cut flat₁, same, takeWhile_cut flat₂]
  subst first
  exact ⟨rfl, (List.cons.inj (List.append_cancel_left same)).2⟩

end Cuts

namespace ObjectKey

theorem toList_joined (stem name : String) :
    (stem ++ "/" ++ name).toList = stem.toList ++ '/' :: name.toList := by
  rw [String.toList_append, String.toList_append, List.append_assoc]
  rfl

theorem joined_injective (stem : String) : Function.Injective (stem ++ "/" ++ ·) := by
  intro name₁ name₂ same
  have chars := congrArg String.toList same
  simp only [toList_joined] at chars
  exact String.toList_injective (List.cons.inj (List.append_cancel_left chars)).2

/-- Two joined keys that are the same have the same stem and name, if no stem has a slash. -/
theorem joined_cut {stem₁ stem₂ name₁ name₂ : String} (flat₁ : '/' ∉ stem₁.toList)
    (flat₂ : '/' ∉ stem₂.toList) (same : stem₁ ++ "/" ++ name₁ = stem₂ ++ "/" ++ name₂) :
    stem₁ = stem₂ ∧ name₁ = name₂ := by
  have chars := congrArg String.toList same
  rw [toList_joined, toList_joined] at chars
  obtain ⟨stems, names⟩ := cut_unique flat₁ flat₂ chars
  exact ⟨String.toList_injective stems, String.toList_injective names⟩

/-- Keys that look alike to a service are the same text. -/
theorem text_of_same_bytes {key₁ key₂ : ObjectKey} (same : key₁.bytes = key₂.bytes) :
    key₁.text = key₂.text :=
  Utf8.ofText_injective same

/-! ### Two namespaces -/

section Spaces

variable (digest : Bytes → Digest)

/-- A hashed namespace has no slash. -/
theorem slash_not_mem_hashedNamespace (space : String) :
    '/' ∉ (hashedNamespace digest space).toList := by
  intro member
  have ordinary := ordinary_hashedNamespace digest space '/' member
  revert ordinary
  decide

theorem slash_not_mem_groupStem {space : String} {names : List String}
    (flat : '/' ∉ space.toList) : '/' ∉ (groupStem digest space names).toList := by
  rw [groupStem]
  split
  · exact slash_not_mem_hashedNamespace digest space
  · exact flat

theorem groupStem_singleton (space name : String) :
    groupStem digest space [name]
      = if Long space name then hashedNamespace digest space else space := by
  rw [groupStem_eq]
  exact if_congr (by simp only [List.mem_singleton, exists_eq_left]) rfl rfl

/-- A name makes the key that is its text behind the stem of the name alone. -/
theorem namespacedWith_eq_ok_iff {space name : String} {key : ObjectKey} :
    namespacedWith digest space name = .ok key ↔
      key.text = groupStem digest space [name] ++ "/" ++ name := by
  rw [namespacedWith_eq, ofText_eq_ok_iff]

/-- How two namespaces come to stand before the slash as one text. -/
theorem spaces_of_same_stem {space₁ space₂ name₁ name₂ : String}
    (same : groupStem digest space₁ [name₁] = groupStem digest space₂ [name₂]) :
    space₁ = space₂ ∨
      (Long space₁ name₁ ∧ Long space₂ name₂ ∧
        hashedNamespace digest space₁ = hashedNamespace digest space₂) ∨
      (Long space₁ name₁ ∧ ¬ Long space₂ name₂ ∧ space₂ = hashedNamespace digest space₁) ∨
      (¬ Long space₁ name₁ ∧ Long space₂ name₂ ∧ space₁ = hashedNamespace digest space₂) := by
  rw [groupStem_singleton, groupStem_singleton] at same
  by_cases long₁ : Long space₁ name₁
  · rw [if_pos long₁] at same
    by_cases long₂ : Long space₂ name₂
    · rw [if_pos long₂] at same
      exact .inr (.inl ⟨long₁, long₂, same⟩)
    · rw [if_neg long₂] at same
      exact .inr (.inr (.inl ⟨long₁, long₂, same.symm⟩))
  · rw [if_neg long₁] at same
    by_cases long₂ : Long space₂ name₂
    · rw [if_pos long₂] at same
      exact .inr (.inr (.inr ⟨long₁, long₂, same⟩))
    · rw [if_neg long₂] at same
      exact .inl same

/-! ### One group -/

/-- Two places of a group whose keys look alike hold the same name. -/
theorem names_of_same_bytes {space : String} {names : List String} {keys : List ObjectKey}
    (made : namespacedAllWith digest space names = .ok keys) {i j : Nat} {key₁ key₂ : ObjectKey}
    (at₁ : keys[i]? = some key₁) (at₂ : keys[j]? = some key₂) (same : key₁.bytes = key₂.bytes) :
    names[i]? = names[j]? := by
  have texts := (namespacedAllWith_eq_ok_iff digest space).mp made
  have spelled : ∀ {place : Nat} {key : ObjectKey}, keys[place]? = some key →
      names[place]?.map (groupStem digest space names ++ "/" ++ ·) = some key.text := by
    intro place key there
    rw [← List.getElem?_map, ← texts, List.getElem?_map, there, Option.map_some]
  apply Option.map_injective (joined_injective (groupStem digest space names))
  rw [spelled at₁, spelled at₂, text_of_same_bytes same]

end Spaces

/-! ### Apart -/

/-- Whatever the digest is, two namespaces without a slash share a key only for one name, and then
they are one namespace, or both are hashed and their digests start alike, or one is hashed and the
other one is the start of its digest. Within a group, any namespace keeps its names apart. -/
theorem namespacedWith_separates (digest : Bytes → Digest) :
    (∀ (space₁ space₂ name₁ name₂ : String) (key₁ key₂ : ObjectKey),
      '/' ∉ space₁.toList → '/' ∉ space₂.toList →
      namespacedWith digest space₁ name₁ = .ok key₁ →
      namespacedWith digest space₂ name₂ = .ok key₂ → key₁.bytes = key₂.bytes →
      name₁ = name₂ ∧
        (space₁ = space₂ ∨
          (Long space₁ name₁ ∧ Long space₂ name₂ ∧
            hashedNamespace digest space₁ = hashedNamespace digest space₂) ∨
          (Long space₁ name₁ ∧ ¬ Long space₂ name₂ ∧ space₂ = hashedNamespace digest space₁) ∨
          (¬ Long space₁ name₁ ∧ Long space₂ name₂ ∧ space₁ = hashedNamespace digest space₂))) ∧
    (∀ (space : String) (names : List String) (keys : List ObjectKey),
      namespacedAllWith digest space names = .ok keys →
      ∀ (i j : Nat) (key₁ key₂ : ObjectKey), keys[i]? = some key₁ → keys[j]? = some key₂ →
        key₁.bytes = key₂.bytes → names[i]? = names[j]?) := by
  constructor
  · intro space₁ space₂ name₁ name₂ key₁ key₂ flat₁ flat₂ made₁ made₂ same
    have texts := text_of_same_bytes same
    rw [(namespacedWith_eq_ok_iff digest).mp made₁,
      (namespacedWith_eq_ok_iff digest).mp made₂] at texts
    obtain ⟨stems, names⟩ := joined_cut (slash_not_mem_groupStem digest flat₁)
      (slash_not_mem_groupStem digest flat₂) texts
    exact ⟨names, spaces_of_same_stem digest stems⟩
  · intro space names keys made i j key₁ key₂ at₁ at₂ same
    exact names_of_same_bytes digest made at₁ at₂ same

/-- A namespace can spell the start of another one's digest, and then the two share a key; a group
that holds a name twice has its key twice. -/
theorem namespacedWith_separates_spelled :
    (∃ key,
      namespacedWith Md5.digest (String.ofList (List.replicate 40 't'))
        "certs/certificate.private.key" = .ok key ∧
      namespacedWith Md5.digest "bd5034b91123acf14505" "certs/certificate.private.key"
        = .ok key ∧
      "bd5034b91123acf14505"
        = hashedNamespace Md5.digest (String.ofList (List.replicate 40 't'))) ∧
    ∃ keys, namespacedAllWith Md5.digest "thing-1" ["GG_CA", "GG_CA"] = .ok keys ∧
      ["GG_CA", "GG_CA"][0]? = ["GG_CA", "GG_CA"][1]? := by
  constructor
  · let shared : ObjectKey :=
      ⟨"bd5034b91123acf14505/certs/certificate.private.key", by decide, by decide, by decide⟩
    have hashed : namespacedWith Md5.digest (String.ofList (List.replicate 40 't'))
        "certs/certificate.private.key" = .ok shared := by decide +kernel
    have plain : namespacedWith Md5.digest "bd5034b91123acf14505" "certs/certificate.private.key"
        = .ok shared := by decide +kernel
    refine ⟨shared, hashed, plain, ?_⟩
    rcases ((namespacedWith_separates Md5.digest).1 _ _ _ _ _ _ (by decide) (by decide) hashed plain
      rfl).2 with same | ⟨-, long, -⟩ | ⟨-, -, spelled⟩ | ⟨short, -, -⟩
    · exact absurd same (by decide)
    · exact absurd long (by decide)
    · exact spelled
    · exact absurd short (by decide)
  · let certificate : ObjectKey := ⟨"thing-1/GG_CA", by decide, by decide, by decide⟩
    have made : namespacedAllWith Md5.digest "thing-1" ["GG_CA", "GG_CA"]
        = .ok [certificate, certificate] := by decide +kernel
    exact ⟨_, made, (namespacedWith_separates Md5.digest).2 _ _ _ made 0 1 _ _ rfl rfl rfl⟩

end ObjectKey

end ObjectVault
