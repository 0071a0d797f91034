/-!
# Finite maps

A table binds keys to values, each key once. It is read through `lookup`, and every operation has one
equation that says what it does to the reading; `size` counts the keys.
-/

namespace ObjectVault

/-- A finite map as a list of bindings with distinct keys. -/
structure Table (κ α : Type) where
  bindings : List (κ × α)
  distinct : (bindings.map Prod.fst).Nodup

namespace Table

variable {κ α : Type} [DecidableEq κ]

def empty : Table κ α := ⟨[], List.nodup_nil⟩

instance : Inhabited (Table κ α) := ⟨empty⟩

/-- The value that a key is bound to. -/
def lookup (table : Table κ α) (key : κ) : Option α :=
  (table.bindings.find? fun binding => binding.1 = key).map Prod.snd

def erase (table : Table κ α) (key : κ) : Table κ α where
  bindings := table.bindings.filter fun binding => binding.1 ≠ key
  distinct := table.distinct.sublist (List.filter_sublist.map _)

/-- The table with a key bound to a value, in place of any earlier value. -/
def insert (table : Table κ α) (key : κ) (value : α) : Table κ α where
  bindings := (key, value) :: (table.erase key).bindings
  distinct := by
    refine List.nodup_cons.mpr ⟨?_, (table.erase key).distinct⟩
    simp [erase]

/-- The table without the bindings of the keys that fail a test. -/
def filter (table : Table κ α) (keep : κ → Bool) : Table κ α where
  bindings := table.bindings.filter fun binding => keep binding.1
  distinct := table.distinct.sublist (List.filter_sublist.map _)

def size (table : Table κ α) : Nat := table.bindings.length

/-! ### The reading after an operation -/

@[simp] theorem lookup_empty (key : κ) : (empty : Table κ α).lookup key = none := rfl

/-- Erasing takes away what was bound to the key, and nothing else. -/
@[simp] theorem lookup_erase (table : Table κ α) (erased key : κ) :
    (table.erase erased).lookup key = if key = erased then none else table.lookup key := by
  obtain ⟨bindings, distinct⟩ := table
  simp only [lookup, erase]
  clear distinct
  induction bindings with
  | nil => simp
  | cons binding rest ih =>
      by_cases hb : binding.1 = erased
      · by_cases hk : key = erased
        · simp [hk]
        · have : ¬ erased = key := fun e => hk e.symm
          simpa [hb, hk, this] using ih
      · by_cases hk : binding.1 = key
        · have : ¬ key = erased := hk ▸ hb
          simp [hk, this]
        · simpa [hb, hk] using ih

/-- Inserting binds the key to the value, and nothing else changes. -/
@[simp] theorem lookup_insert (table : Table κ α) (key other : κ) (value : α) :
    (table.insert key value).lookup other = if other = key then some value else table.lookup other := by
  have erased := lookup_erase table key other
  simp only [lookup, insert, List.find?_cons] at erased ⊢
  by_cases h : other = key
  · simp [h]
  · have : ¬ key = other := fun e => h e.symm
    simp only [this, decide_false, erased, h, if_false]

@[simp] theorem lookup_filter (table : Table κ α) (keep : κ → Bool) (key : κ) :
    (table.filter keep).lookup key = if keep key then table.lookup key else none := by
  obtain ⟨bindings, distinct⟩ := table
  simp only [lookup, filter]
  clear distinct
  induction bindings with
  | nil => simp
  | cons binding rest ih =>
      by_cases hb : keep binding.1 <;> by_cases hk : binding.1 = key
      · simp [← hk, hb]
      · simpa [hb, hk] using ih
      · have dropped : keep key = false := by simpa [hk] using hb
        simpa [hb, dropped] using ih
      · simpa [hb, hk] using ih

/-- A key is bound where the bindings hold it. -/
theorem lookup_isSome {table : Table κ α} {key : κ} :
    (table.lookup key).isSome ↔ key ∈ table.bindings.map Prod.fst := by
  simp [lookup]

end Table

end ObjectVault
