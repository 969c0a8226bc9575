import CyclicDma.Error

/-! # Operations that may fail

An attempt works on a state and may fail. What it did before it failed stays
done. `Attempt.perform` says what an attempt does to a state, and the lemmas
below say it for each way to build one.
-/

namespace CyclicDma

/-- An operation on a state that may fail. -/
abbrev Attempt (σ : Type) := ExceptT DmaError (StateM σ)

namespace Attempt

variable {σ α β : Type}

/-- Perform an operation. Gives its result, and the state that it leaves. -/
def perform (attempt : Attempt σ α) (state : σ) : Except DmaError α × σ :=
  attempt.run.run state

@[simp]
theorem perform_pure (value : α) (state : σ) :
    perform (pure value) state = (.ok value, state) := rfl

@[simp]
theorem perform_throw (error : DmaError) (state : σ) :
    perform (throw error : Attempt σ α) state = (.error error, state) := rfl

@[simp]
theorem perform_get (state : σ) : perform get state = (.ok state, state) := rfl

@[simp]
theorem perform_modify (change : σ → σ) (state : σ) :
    perform (modify change) state = (.ok (), change state) := rfl

@[simp]
theorem perform_lift (action : StateM σ α) (state : σ) :
    perform (ExceptT.lift action) state = (.ok (action.run state).1, (action.run state).2) := rfl

theorem perform_bind (first : Attempt σ α) (next : α → Attempt σ β) (state : σ) :
    perform (first >>= next) state =
      match first.perform state with
      | (.ok value, after) => (next value).perform after
      | (.error error, after) => (.error error, after) := by
  simp only [perform, ExceptT.run_bind, StateT.run_bind]
  rcases h : first.run.run state with ⟨result, after⟩
  cases result <;> rfl

@[simp]
theorem perform_map (change : α → β) (attempt : Attempt σ α) (state : σ) :
    perform (change <$> attempt) state =
      ((attempt.perform state).1.map change, (attempt.perform state).2) := by
  rw [map_eq_pure_bind, perform_bind]
  rcases attempt.perform state with ⟨result, after⟩
  cases result <;> rfl

/-- Nothing that follows a failed operation is done. -/
theorem perform_bind_of_error {first : Attempt σ α} {state after : σ} {error : DmaError}
    (failed : first.perform state = (.error error, after)) (next : α → Attempt σ β) :
    perform (first >>= next) state = (.error error, after) := by
  rw [perform_bind, failed]

/-- What follows a successful operation gets its value and the state that it
left. -/
theorem perform_bind_of_ok {first : Attempt σ α} {state after : σ} {value : α}
    (done : first.perform state = (.ok value, after)) (next : α → Attempt σ β) :
    perform (first >>= next) state = (next value).perform after := by
  rw [perform_bind, done]

end Attempt

end CyclicDma
