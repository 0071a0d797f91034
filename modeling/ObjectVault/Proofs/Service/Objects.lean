import Mathlib.Data.Finmap
import ObjectVault.ObjectTable

/-!
# Objects as a finite map

The table of a service spells out a finite map from ids to bytes: storing inserts into the map and
removing erases from it (`toFinmap_insert`, `toFinmap_erase`). What is proved about the objects of a
service is said of the map, in which the order of the bindings does not count.
-/

namespace ObjectVault

namespace Table

variable {κ α : Type} [DecidableEq κ]

/-- The finite map that a table spells out. -/
def toFinmap (table : Table κ α) : Finmap fun _ : κ => α :=
  (table.bindings.map fun binding => (⟨binding.1, binding.2⟩ : (_ : κ) × α)).toFinmap

/-- A table reads as the finite map that it stands for. -/
@[simp] theorem lookup_toFinmap (table : Table κ α) (key : κ) :
    table.toFinmap.lookup key = table.lookup key := by
  obtain ⟨bindings, distinct⟩ := table
  simp only [toFinmap, Finmap.dlookup_list_toFinmap, lookup]
  clear distinct
  induction bindings with
  | nil => rfl
  | cons binding rest ih =>
      by_cases found : binding.1 = key
      · subst found
        simp
      · have other : key ≠ binding.1 := fun same => found same.symm
        rw [List.map_cons, List.dlookup_cons_ne _ (⟨binding.1, binding.2⟩ : (_ : κ) × α) other, ih]
        simp [found]

theorem mem_toFinmap {table : Table κ α} {key : κ} :
    key ∈ table.toFinmap ↔ (table.lookup key).isSome := by
  rw [← Finmap.lookup_isSome, lookup_toFinmap]

/-- Insertion into a table is insertion into its map. -/
theorem toFinmap_insert (table : Table κ α) (key : κ) (value : α) :
    (table.insert key value).toFinmap = table.toFinmap.insert key value := by
  apply Finmap.ext_lookup
  intro other
  rw [lookup_toFinmap, lookup_insert]
  split
  · next same => rw [same, Finmap.lookup_insert]
  · next differ => rw [Finmap.lookup_insert_of_ne _ differ, lookup_toFinmap]

theorem toFinmap_erase (table : Table κ α) (key : κ) :
    (table.erase key).toFinmap = table.toFinmap.erase key := by
  apply Finmap.ext_lookup
  intro other
  rw [lookup_toFinmap, lookup_erase]
  split
  · next same => rw [same, Finmap.lookup_erase]
  · next differ => rw [Finmap.lookup_erase_ne differ, lookup_toFinmap]

/-- Erasing what is not there changes nothing in the map. -/
theorem toFinmap_erase_of_absent {table : Table κ α} {key : κ} (absent : table.lookup key = none) :
    (table.erase key).toFinmap = table.toFinmap := by
  apply Finmap.ext_lookup
  intro other
  rw [lookup_toFinmap, lookup_toFinmap, lookup_erase]
  split
  · next same => rw [same, absent]
  · rfl

end Table

/-- Objects by id. -/
abbrev ObjectMap := Finmap fun _ : Bytes => Bytes

end ObjectVault
