import ObjectVault.Event

/-!
# Actions

An action runs from a state: it yields a value, leaves a state behind and reports events in order.
Doing one action after another puts their events one after another, which `events_bind` says.
-/

namespace ObjectVault

/-- What one run of an action comes to. -/
structure Outcome (σ α : Type) where
  value : α
  state : σ
  events : List Event

/-- A computation over a state of type `σ` that reports events. -/
def Action (σ α : Type) : Type := σ → Outcome σ α

namespace Action

variable {σ τ α β : Type}

def run (action : Action σ α) (state : σ) : Outcome σ α := action state

instance : Monad (Action σ) where
  pure value := fun state => ⟨value, state, []⟩
  bind action next := fun state =>
    let first := action state
    let second := next first.value first.state
    ⟨second.value, second.state, first.events ++ second.events⟩

def get : Action σ σ := fun state => ⟨state, state, []⟩

def modify (change : σ → σ) : Action σ Unit := fun state => ⟨(), change state, []⟩

def set (state : σ) : Action σ Unit := fun _ => ⟨(), state, []⟩

def report (event : Event) : Action σ Unit := fun state => ⟨(), state, [event]⟩

/-- An action on a part of the state, which `part` reads and `put` replaces. -/
def onPart (part : σ → τ) (put : τ → σ → σ) (action : Action τ α) : Action σ α := fun state =>
  let inner := action (part state)
  ⟨inner.value, put inner.state state, inner.events⟩

/-! ### Runs of composite actions -/

@[simp] theorem run_pure (value : α) (state : σ) :
    (pure value : Action σ α).run state = ⟨value, state, []⟩ := rfl

@[simp] theorem value_bind (action : Action σ α) (next : α → Action σ β) (state : σ) :
    ((action >>= next).run state).value
      = ((next (action.run state).value).run (action.run state).state).value := rfl

@[simp] theorem state_bind (action : Action σ α) (next : α → Action σ β) (state : σ) :
    ((action >>= next).run state).state
      = ((next (action.run state).value).run (action.run state).state).state := rfl

@[simp] theorem events_bind (action : Action σ α) (next : α → Action σ β) (state : σ) :
    ((action >>= next).run state).events
      = (action.run state).events
        ++ ((next (action.run state).value).run (action.run state).state).events := rfl

/-- A sequence runs its second part from where the first has ended, and reports the events of both in
order. -/
theorem run_bind (action : Action σ α) (next : α → Action σ β) (state : σ) :
    (action >>= next).run state
      = ⟨((next (action.run state).value).run (action.run state).state).value,
          ((next (action.run state).value).run (action.run state).state).state,
          (action.run state).events
            ++ ((next (action.run state).value).run (action.run state).state).events⟩ := rfl

/-- An action on a part of the state leaves the rest to `put`. -/
theorem run_onPart (part : σ → τ) (put : τ → σ → σ) (action : Action τ α) (state : σ) :
    (action.onPart part put).run state
      = ⟨(action.run (part state)).value, put (action.run (part state)).state state,
          (action.run (part state)).events⟩ := rfl

@[simp] theorem run_get (state : σ) : (get : Action σ σ).run state = ⟨state, state, []⟩ := rfl

@[simp] theorem run_modify (change : σ → σ) (state : σ) :
    (modify change).run state = ⟨(), change state, []⟩ := rfl

@[simp] theorem run_set (new old : σ) : (set new).run old = ⟨(), new, []⟩ := rfl

@[simp] theorem run_report (event : Event) (state : σ) :
    (report event).run state = ⟨(), state, [event]⟩ := rfl

instance : LawfulMonad (Action σ) := LawfulMonad.mk' (Action σ)
  (by intro α action; funext state; exact congrArg (Outcome.mk _ _) (List.append_nil _))
  (by intro α β value next; funext state; simp [bind, pure])
  (by intro α β γ action f g; funext state; simp [bind, List.append_assoc])

/-- A function of the value touches neither the state nor the events. -/
theorem run_map (f : α → β) (action : Action σ α) (state : σ) :
    (f <$> action).run state
      = ⟨f (action.run state).value, (action.run state).state, (action.run state).events⟩ := by
  rw [map_eq_pure_bind, run_bind]
  simp

end Action

end ObjectVault
