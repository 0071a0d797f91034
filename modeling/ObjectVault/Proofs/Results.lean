import Mathlib.Data.List.Forall2

/-!
# Results that can fail

What is behind a result that comes from several steps: each step has yielded one (`bind_eq_ok_iff`,
`mapM_eq_ok_iff`), or one has failed and none after it has been made (`mapM_eq_error_iff`).
-/

namespace ObjectVault

/-- A chain of two succeeds exactly if the first does and the second does on its value. -/
theorem bind_eq_ok_iff {ε α β : Type} {first : Except ε α} {next : α → Except ε β} {result : β} :
    first >>= next = .ok result ↔ ∃ value, first = .ok value ∧ next value = .ok result := by
  cases first with
  | error cause => exact ⟨nofun, nofun⟩
  | ok value =>
      constructor
      · intro runs
        exact ⟨value, rfl, runs⟩
      · rintro ⟨_, ⟨⟩, runs⟩
        exact runs

theorem mapError_eq_ok_iff {ε ε' α : Type} {result : Except ε α} {f : ε → ε'} {value : α} :
    result.mapError f = .ok value ↔ result = .ok value := by
  cases result with
  | error cause => exact ⟨nofun, nofun⟩
  | ok found =>
      constructor
      · rintro ⟨⟩
        rfl
      · rintro ⟨⟩
        rfl

/-- A result can be read off from its value, which is easier to decide. -/
theorem eq_ok_of_toOption {ε α : Type} {result : Except ε α} {value : α}
    (some_value : result.toOption = some value) : result = .ok value := by
  cases result with
  | error error => cases some_value
  | ok value =>
      cases some_value
      rfl

/-! ### Traversals -/

section Traversals

variable {α β ε : Type} {f g : α → Except ε β} {head : α} {elements rest : List α}

theorem mapM_cons_eq_ok_iff {results : List β} :
    (head :: rest).mapM f = .ok results ↔
      ∃ result others, f head = .ok result ∧ rest.mapM f = .ok others ∧
        results = result :: others := by
  rw [List.mapM_cons]
  cases f head with
  | error cause => exact ⟨nofun, nofun⟩
  | ok result =>
      cases rest.mapM f with
      | error cause => exact ⟨nofun, nofun⟩
      | ok others =>
          constructor
          · rintro ⟨⟩
            exact ⟨result, others, rfl, rfl, rfl⟩
          · rintro ⟨_, _, ⟨⟩, ⟨⟩, rfl⟩
            rfl

theorem mapM_cons_eq_error_iff {cause : ε} :
    (head :: rest).mapM f = .error cause ↔
      f head = .error cause ∨ ∃ result, f head = .ok result ∧ rest.mapM f = .error cause := by
  rw [List.mapM_cons]
  cases f head with
  | error early =>
      constructor
      · rintro ⟨⟩
        exact .inl rfl
      · rintro (⟨⟨⟩⟩ | ⟨_, ⟨⟩, -⟩)
        rfl
  | ok result =>
      cases rest.mapM f with
      | error late =>
          constructor
          · rintro ⟨⟩
            exact .inr ⟨result, rfl, rfl⟩
          · rintro (⟨⟨⟩⟩ | ⟨_, -, ⟨⟩⟩)
            rfl
      | ok others => exact ⟨nofun, nofun⟩

/-- A traversal succeeds exactly if each element does, and gives the results in order. -/
theorem mapM_eq_ok_iff {results : List β} :
    elements.mapM f = .ok results ↔
      List.Forall₂ (fun element result => f element = .ok result) elements results := by
  induction elements generalizing results with
  | nil =>
      rw [List.mapM_nil, List.forall₂_nil_left_iff]
      constructor
      · rintro ⟨⟩
        rfl
      · rintro rfl
        rfl
  | cons head rest ih =>
      rw [mapM_cons_eq_ok_iff, List.forall₂_cons_left_iff]
      simp only [ih]

/-- A traversal fails as the first element that fails. -/
theorem mapM_eq_error_iff {cause : ε} :
    elements.mapM f = .error cause ↔
      ∃ before element after, elements = before ++ element :: after ∧
        (∀ earlier ∈ before, ∃ result, f earlier = .ok result) ∧ f element = .error cause := by
  induction elements with
  | nil =>
      constructor
      · rintro ⟨⟩
      · rintro ⟨before, element, after, cut, -⟩
        exact absurd cut.symm (List.append_ne_nil_of_right_ne_nil before (List.cons_ne_nil _ _))
  | cons head rest ih =>
      rw [mapM_cons_eq_error_iff, ih]
      constructor
      · rintro (early | ⟨result, made, before, element, after, rfl, good, bad⟩)
        · exact ⟨[], head, rest, rfl, nofun, early⟩
        · exact ⟨head :: before, element, after, rfl,
            List.forall_mem_cons.mpr ⟨⟨result, made⟩, good⟩, bad⟩
      · rintro ⟨before, element, after, cut, good, bad⟩
        cases before with
        | nil =>
            cases cut
            exact .inl bad
        | cons earlier others =>
            cases cut
            obtain ⟨⟨result, made⟩, good⟩ := List.forall_mem_cons.mp good
            exact .inr ⟨result, made, others, element, after, rfl, good, bad⟩

theorem mapM_congr (same : ∀ element ∈ elements, f element = g element) :
    elements.mapM f = elements.mapM g := by
  induction elements with
  | nil => rfl
  | cons head rest ih =>
      have later := ih fun element member => same element (List.mem_cons_of_mem head member)
      rw [List.mapM_cons, List.mapM_cons, same head List.mem_cons_self, later]

end Traversals

end ObjectVault
