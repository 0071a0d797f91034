import ObjectVault.Action

/-!
# Two runs side by side

Two actions agree where, from related states, they report the same events, give related values and
leave related states. Agreement is put together as the actions are: there is a rule for each of the
basic actions, and `Agree.bind` and `Agree.andThen` take one action after another.

Results that may fail are related by `SameResult`: both succeed, with related values, or both fail
with the same error.
-/

namespace ObjectVault

variable {σ τ α β γ δ ε : Type}

/-- Two results that fail alike, or succeed with related values. -/
inductive SameResult (values : α → β → Prop) : Except ε α → Except ε β → Prop where
  | ok {first : α} {second : β} (related : values first second) :
      SameResult values (.ok first) (.ok second)
  | error (cause : ε) : SameResult values (.error cause) (.error cause)

namespace SameResult

variable {values : α → β → Prop} {values' : γ → δ → Prop} {first : Except ε α} {second : Except ε β}

/-- What two results of the same kind are. -/
theorem outcomes (same : SameResult values first second) :
    (∃ cause, first = .error cause ∧ second = .error cause) ∨
    ∃ a b, first = .ok a ∧ second = .ok b ∧ values a b := by
  cases same with
  | ok related => exact .inr ⟨_, _, rfl, rfl, related⟩
  | error cause => exact .inl ⟨cause, rfl, rfl⟩

theorem toBool (same : SameResult values first second) : first.toBool = second.toBool := by
  cases same <;> rfl

/-- What agrees step by step agrees as a whole, where results that may fail are chained. -/
theorem bind {f : α → Except ε γ} {g : β → Except ε δ} (same : SameResult values first second)
    (next : ∀ a b, values a b → SameResult values' (f a) (g b)) :
    SameResult values' (first >>= f) (second >>= g) := by
  cases same with
  | ok related => exact next _ _ related
  | error cause => exact .error cause

/-- The values are related as well where a default stands in for a failure. -/
theorem getD_toOption {values : α → α → Prop} {first second : Except ε α} {a b : α}
    (same : SameResult values first second) (otherwise : values a b) :
    values (first.toOption.getD a) (second.toOption.getD b) := by
  cases same with
  | ok related => exact related
  | error cause => exact otherwise

end SameResult

/-- Two outcomes with the same events, related values and related states. -/
structure Outcome.Agree (states : σ → τ → Prop) (values : α → β → Prop) (first : Outcome σ α)
    (second : Outcome τ β) : Prop where
  value : values first.value second.value
  state : states first.state second.state
  events : first.events = second.events

namespace Action

/-- Two actions that have agreeing outcomes from related states. -/
def Agree (states : σ → τ → Prop) (values : α → β → Prop) (first : Action σ α)
    (second : Action τ β) : Prop :=
  ∀ s t, states s t → (first.run s).Agree states values (second.run t)

namespace Agree

variable {states : σ → τ → Prop} {values : α → β → Prop} {values' : γ → δ → Prop}
  {first : Action σ α} {second : Action τ β}

/-- Actions agree when their first parts do and their continuations do on related values. -/
theorem bind {f : α → Action σ γ} {g : β → Action τ δ} (agree : Agree states values first second)
    (next : ∀ a b, values a b → Agree states values' (f a) (g b)) :
    Agree states values' (first >>= f) (second >>= g) := by
  intro s t related
  have now := agree s t related
  have later := next _ _ now.value _ _ now.state
  refine ⟨later.value, later.state, ?_⟩
  rw [events_bind, events_bind, now.events, later.events]

/-- What comes after does not look at the values. -/
theorem andThen {later : Action σ γ} {later' : Action τ δ} (agree : Agree states values first second)
    (next : Agree states values' later later') :
    Agree states values' (first >>= fun _ => later) (second >>= fun _ => later') :=
  agree.bind fun _ _ _ => next

protected theorem pure {a : α} {b : β} (related : values a b) :
    Agree states values (pure a) (pure b) :=
  fun _ _ start => ⟨related, start, rfl⟩

theorem map {f : α → γ} {g : β → δ} (agree : Agree states values first second)
    (maps : ∀ a b, values a b → values' (f a) (g b)) :
    Agree states values' (f <$> first) (g <$> second) := by
  rw [map_eq_pure_bind, map_eq_pure_bind]
  exact agree.bind fun a b related => .pure (maps a b related)

theorem report (event : Event) :
    Agree states Eq (Action.report event) (Action.report event) :=
  fun _ _ start => ⟨rfl, start, rfl⟩

theorem get : Agree states states Action.get Action.get :=
  fun _ _ start => ⟨start, start, rfl⟩

theorem set {s : σ} {t : τ} (related : states s t) :
    Agree states Eq (Action.set s) (Action.set t) :=
  fun _ _ _ => ⟨rfl, related, rfl⟩

theorem modify {f : σ → σ} {g : τ → τ} (keeps : ∀ s t, states s t → states (f s) (g t)) :
    Agree states Eq (Action.modify f) (Action.modify g) :=
  fun s t start => ⟨rfl, keeps s t start, rfl⟩

/-- Actions on parts agree where the parts are related and stay so when they are put back. -/
theorem onPart {σ' τ' : Type} {whole : σ' → τ' → Prop} {part : σ' → σ} {part' : τ' → τ}
    {put : σ → σ' → σ'} {put' : τ → τ' → τ'} (agree : Agree states values first second)
    (parts : ∀ s t, whole s t → states (part s) (part' t))
    (back : ∀ s t a b, whole s t → states a b → whole (put a s) (put' b t)) :
    Agree whole values (first.onPart part put) (second.onPart part' put') := by
  intro s t start
  have inner := agree _ _ (parts s t start)
  exact ⟨inner.value, back _ _ _ _ start inner.state, inner.events⟩

end Agree

end Action

end ObjectVault
