import Mathlib.Data.List.Nodup
import ObjectVault.Toml.Document

/-!
# Keys of a document

No key is bound twice in a document that is read: `distinct_of_read`. Each way to add to a table
changes an entry where it stands, under the key that it has, or adds one under a key that is new
(`Entries.keys_alter`, `Entries.keys_openTable`).
-/

namespace ObjectVault.Toml

namespace Entries

def keys (entries : Entries) : List String := entries.map fun entry => entry.key.text

@[simp] theorem keys_cons (entry : Entry Value) (rest : Entries) :
    keys (entry :: rest) = entry.key.text :: keys rest := rfl

def Distinct (entries : Entries) : Prop := entries.keys.Nodup

/-- A change leaves an entry under its key, and makes a new one under a given key. -/
def KeepsKey (name : String) (change : Option (Entry Value) → Option (Entry Value)) : Prop :=
  ∀ old new, (∀ entry ∈ old, entry.key.text = name) → change old = some new → new.key.text = name

variable {name : String} {change : Option (Entry Value) → Option (Entry Value)}
  {entries after : Entries}

/-- Only the key that is altered can be new. -/
theorem keys_alter (keeps : KeepsKey name change)
    (alters : alter name change entries = some after) :
    after.keys = if name ∈ entries.keys then entries.keys else entries.keys ++ [name] := by
  induction entries generalizing after with
  | nil =>
      obtain ⟨entry, makes, rfl⟩ := Option.map_eq_some_iff.mp alters
      have named := keeps none entry nofun makes
      simp [keys, named]
  | cons entry rest ih =>
      rw [alter] at alters
      split at alters
      · next same =>
          obtain ⟨changed, makes, rfl⟩ := Option.map_eq_some_iff.mp alters
          have named := keeps (some entry) changed (by simpa using same) makes
          simp [keys, named, same]
      · next other =>
          obtain ⟨changed, altersRest, rfl⟩ := Option.map_eq_some_iff.mp alters
          have there := ih altersRest
          have apart : name ≠ entry.key.text := fun same => other same.symm
          rw [keys_cons, keys_cons, there]
          simp only [List.mem_cons, apart, false_or]
          split
          · rfl
          · rfl

/-- A change that keeps the name it is about keeps the names distinct. -/
theorem distinct_alter (keeps : KeepsKey name change) (distinct : entries.Distinct)
    (alters : alter name change entries = some after) : after.Distinct := by
  rw [Distinct, keys_alter keeps alters]
  split
  · exact distinct
  · next new =>
      rw [← List.concat_eq_append]
      exact List.Nodup.concat new distinct

/-! ### Bindings -/

variable {path : List Key} {span : Span} {value : Value} {lines : List Assignment}
  {header : Header} {key : Key}

/-- Putting a value along a path keeps the names distinct, because a name that is taken is refused or
gone into. -/
theorem distinct_put (distinct : entries.Distinct)
    (puts : put path span value entries = some after) : after.Distinct := by
  match path with
  | [] => cases puts
  | [key] =>
      refine distinct_alter ?_ distinct puts
      intro old new named makes
      cases old with
      | none =>
          cases makes
          rfl
      | some entry => cases makes
  | key :: next :: rest =>
      rw [put] at puts
      refine distinct_alter ?_ distinct puts
      intro old new named makes
      rcases old with _ | ⟨own, stretch, held⟩
      · obtain ⟨inner, -, rfl⟩ := Option.map_eq_some_iff.mp makes
        rfl
      · have owned : own.text = key.text := named _ rfl
        cases held with
        | table kind inner =>
            dsimp only at makes
            split at makes
            · obtain ⟨filled, -, rfl⟩ := Option.map_eq_some_iff.mp makes
              exact owned
            · cases makes
        | tables elements =>
            obtain ⟨last, -, makes⟩ := Option.bind_eq_some_iff.mp makes
            split at makes
            · cases makes
            · obtain ⟨filled, -, makes⟩ := Option.bind_eq_some_iff.mp makes
              cases makes
              exact owned
        | string | integer | float | boolean | datetime | array => cases makes

theorem distinct_putAll (distinct : entries.Distinct) (puts : putAll lines entries = some after) :
    after.Distinct := by
  induction lines generalizing entries with
  | nil =>
      cases puts
      exact distinct
  | cons line rest ih =>
      rw [putAll, List.foldlM_cons] at puts
      obtain ⟨next, putsFirst, putsRest⟩ := Option.bind_eq_some_iff.mp puts
      exact ih (distinct_put distinct putsFirst) putsRest

/-! ### Headers -/

theorem distinct_addTable (distinct : entries.Distinct)
    (adds : addTable header key lines entries = some after) : after.Distinct := by
  obtain ⟨inner, -, alters⟩ := Option.bind_eq_some_iff.mp adds
  refine distinct_alter ?_ distinct alters
  intro old new named makes
  rcases old with _ | ⟨own, stretch, held⟩
  · cases makes
    rfl
  · have owned : own.text = key.text := named _ rfl
    cases held with
    | tables elements =>
        cases makes
        exact owned
    | string | integer | float | boolean | datetime | array | table => cases makes

/-- A table that is opened is moved to the end. -/
theorem keys_openTable (opens : openTable header key lines entries = some after) :
    after.keys = entries.keys.filter (· ≠ key.text) ++ [key.text] := by
  have fills (before : Entries)
      (opens : (do
        let inner ← putAll lines before
        return erase entries key.text
          ++ [⟨key, some (extent header lines), .table .header inner⟩]) = some after) :
      after.keys = entries.keys.filter (· ≠ key.text) ++ [key.text] := by
    obtain ⟨inner, -, opens⟩ := Option.bind_eq_some_iff.mp opens
    cases opens
    simp [keys, erase, List.filter_map, Function.comp_def]
  simp only [openTable] at opens
  split at opens
  · exact fills [] opens
  · next inner _ => exact fills inner opens
  · cases opens

theorem distinct_openTable (distinct : entries.Distinct)
    (opens : openTable header key lines entries = some after) : after.Distinct := by
  have new : key.text ∉ entries.keys.filter (· ≠ key.text) := by simp
  rw [Distinct, keys_openTable opens, ← List.concat_eq_append]
  exact List.Nodup.concat new (List.Nodup.filter _ distinct)

theorem distinct_place (distinct : entries.Distinct)
    (places : place header lines path entries = some after) : after.Distinct := by
  match path with
  | [] => cases places
  | [key] =>
      rw [place] at places
      split at places
      · exact distinct_addTable distinct places
      · exact distinct_openTable distinct places
  | key :: next :: rest =>
      rw [place] at places
      refine distinct_alter ?_ distinct places
      intro old new named makes
      rcases old with _ | ⟨own, stretch, held⟩
      · obtain ⟨inner, -, rfl⟩ := Option.map_eq_some_iff.mp makes
        rfl
      · have owned : own.text = key.text := named _ rfl
        cases held with
        | table kind inner =>
            dsimp only at makes
            split at makes
            · cases makes
            · obtain ⟨filled, -, rfl⟩ := Option.map_eq_some_iff.mp makes
              exact owned
        | tables elements =>
            obtain ⟨last, -, makes⟩ := Option.bind_eq_some_iff.mp makes
            obtain ⟨filled, -, makes⟩ := Option.bind_eq_some_iff.mp makes
            cases makes
            exact owned
        | string | integer | float | boolean | datetime | array => cases makes

end Entries

/-! ### Documents -/

namespace Document

open Entries

/-- All lines of a document together keep the names distinct. -/
theorem distinct_placeAll {lines : List Line} {entries after : Entries}
    (distinct : entries.Distinct) (places : placeAll lines entries = some after) :
    after.Distinct := by
  induction lines generalizing entries with
  | nil =>
      cases places
      exact distinct
  | cons line rest ih =>
      cases line with
      | header header =>
          obtain ⟨next, placesFirst, placesRest⟩ := Option.bind_eq_some_iff.mp places
          exact ih (distinct_place distinct placesFirst) placesRest
      | blank | assignment line => exact ih distinct places

/-- No key is bound twice in a document. -/
theorem distinct_of_read {chars : List Char} {entries : Entries}
    (reads : read chars = some entries) : entries.Distinct := by
  obtain ⟨lines, -, reads⟩ := Option.bind_eq_some_iff.mp reads
  obtain ⟨bound, puts, places⟩ := Option.bind_eq_some_iff.mp reads
  have empty : Distinct [] := List.nodup_nil
  exact distinct_placeAll (distinct_putAll empty puts) places

end Document

end ObjectVault.Toml
