import CyclicDma.Attempt
import Mathlib

/-! # What operations that may fail do to a state

An operation follows a relation when the state before it and the state after it
are always related, also when it fails. For a relation that can be composed, an
operation follows it as soon as its parts do.

An operation respects a relation when it has the same result at related states, and
leaves related states. That, too, carries over from its parts.
-/

namespace CyclicDma

variable {ε σ α β : Type} {relation : σ → σ → Prop}

/-- The operation takes every state to a related one, whether it fails or
not. -/
def Follows (relation : σ → σ → Prop) (action : ExceptT ε (StateM σ) α) : Prop :=
  ∀ state, relation state (action.run.run state).2

theorem Follows.mono {stronger : σ → σ → Prop} {action : ExceptT ε (StateM σ) α}
    (hfollows : Follows stronger action)
    (hmono : ∀ before after, stronger before after → relation before after) :
    Follows relation action :=
  fun state => hmono _ _ (hfollows state)

theorem follows_pure [Std.Refl relation] (value : α) :
    Follows relation (pure value : ExceptT ε (StateM σ) α) :=
  fun state => Std.Refl.refl state

theorem follows_throw [Std.Refl relation] (error : ε) :
    Follows relation (throw error : ExceptT ε (StateM σ) α) :=
  fun state => Std.Refl.refl state

theorem follows_modify {change : σ → σ} (hchange : ∀ state, relation state (change state)) :
    Follows relation (modify change : ExceptT ε (StateM σ) PUnit) :=
  hchange

/-- What follows a look at the state may depend on it. -/
theorem follows_get_bind {next : σ → ExceptT ε (StateM σ) β}
    (hnext : ∀ state, relation state ((next state).run.run state).2) :
    Follows relation (get >>= next) :=
  hnext

theorem follows_throw_bind [Std.Refl relation] (error : ε) (next : α → ExceptT ε (StateM σ) β) :
    Follows relation (throw error >>= next) :=
  fun state => Std.Refl.refl state

/-- An operation that starts at a state takes it to a related one if its first
part does, and the rest follows the relation. -/
theorem related_bind [IsTrans σ relation] {first : ExceptT ε (StateM σ) α}
    {next : α → ExceptT ε (StateM σ) β} {state : σ}
    (hfirst : relation state (first.run.run state).2)
    (hnext : ∀ value, Follows relation (next value)) :
    relation state ((first >>= next).run.run state).2 := by
  rw [ExceptT.run_bind, StateT.run_bind]
  cases hperform : first.run.run state with
  | mk result after =>
      rw [hperform] at hfirst
      cases result with
      | error error => exact hfirst
      | ok value => exact IsTrans.trans _ _ _ hfirst (hnext value after)

theorem Follows.bind [IsTrans σ relation] {first : ExceptT ε (StateM σ) α}
    {next : α → ExceptT ε (StateM σ) β} (hfirst : Follows relation first)
    (hnext : ∀ value, Follows relation (next value)) : Follows relation (first >>= next) :=
  fun state => related_bind (hfirst state) hnext

/-- Whatever the operation returns has the property. -/
def Yields (property : α → Prop) (action : ExceptT ε (StateM σ) α) : Prop :=
  ∀ state value after, action.run.run state = (.ok value, after) → property value

/-- What comes next may rely on what the first operation yields. -/
theorem Follows.bind_of_yields [IsTrans σ relation] {property : α → Prop}
    {first : ExceptT ε (StateM σ) α} {next : α → ExceptT ε (StateM σ) β}
    (hfirst : Follows relation first) (hyields : Yields property first)
    (hnext : ∀ value, property value → Follows relation (next value)) :
    Follows relation (first >>= next) := by
  intro state
  have hafter := hfirst state
  rw [ExceptT.run_bind, StateT.run_bind]
  cases hperform : first.run.run state with
  | mk result after =>
      rw [hperform] at hafter
      cases result with
      | error error => exact hafter
      | ok value =>
          exact IsTrans.trans _ _ _ hafter (hnext value (hyields _ _ _ hperform) after)

theorem run_bind_of_ok {first : ExceptT ε (StateM σ) α} {state middle : σ} {value : α}
    (hfirst : first.run.run state = (.ok value, middle)) (next : α → ExceptT ε (StateM σ) β) :
    (first >>= next).run.run state = (next value).run.run middle := by
  rw [ExceptT.run_bind, StateT.run_bind, hfirst]
  rfl

theorem run_bind_of_error {first : ExceptT ε (StateM σ) α} {state middle : σ} {error : ε}
    (hfirst : first.run.run state = (.error error, middle)) (next : α → ExceptT ε (StateM σ) β) :
    (first >>= next).run.run state = (.error error, middle) := by
  rw [ExceptT.run_bind, StateT.run_bind, hfirst]
  rfl

/-- A sequence of operations succeeds when each of them does. -/
theorem run_bind_eq_ok {first : ExceptT ε (StateM σ) α} {next : α → ExceptT ε (StateM σ) β}
    {state after : σ} {value : β}
    (hdone : (first >>= next).run.run state = (.ok value, after)) :
    ∃ result middle, first.run.run state = (.ok result, middle) ∧
      (next result).run.run middle = (.ok value, after) := by
  rw [ExceptT.run_bind, StateT.run_bind] at hdone
  cases hfirst : first.run.run state with
  | mk result middle =>
      rw [hfirst] at hdone
      cases result with
      | error error => cases hdone
      | ok result => exact ⟨result, middle, rfl, hdone⟩

/-! ## The same operation at two states -/

/-- Two outcomes have the same result, and leave related states. -/
def Agree (relation : σ → σ → Prop) (first second : α × σ) : Prop :=
  first.1 = second.1 ∧ relation first.2 second.2

/-- The operation has the same result at related states, and leaves related ones. -/
def Respects (relation : σ → σ → Prop) (action : ExceptT ε (StateM σ) α) : Prop :=
  ∀ state other, relation state other →
    Agree relation (action.run.run state) (action.run.run other)

theorem respects_pure (value : α) :
    Respects relation (pure value : ExceptT ε (StateM σ) α) :=
  fun _ _ hrelated => ⟨rfl, hrelated⟩

theorem respects_throw (error : ε) :
    Respects relation (throw error : ExceptT ε (StateM σ) α) :=
  fun _ _ hrelated => ⟨rfl, hrelated⟩

theorem respects_modify {change : σ → σ}
    (hchange : ∀ state other, relation state other → relation (change state) (change other)) :
    Respects relation (modify change : ExceptT ε (StateM σ) PUnit) :=
  fun state other hrelated => ⟨rfl, hchange state other hrelated⟩

theorem Respects.bind {first : ExceptT ε (StateM σ) α} {next : α → ExceptT ε (StateM σ) β}
    (hfirst : Respects relation first) (hnext : ∀ value, Respects relation (next value)) :
    Respects relation (first >>= next) := by
  intro state other hrelated
  obtain ⟨hresult, hafter⟩ := hfirst state other hrelated
  cases hstate : first.run.run state with
  | mk result after =>
      cases hother : first.run.run other with
      | mk result' after' =>
          rw [hstate, hother] at hresult hafter
          obtain rfl : result = result' := hresult
          cases result with
          | error error =>
              rw [run_bind_of_error hstate, run_bind_of_error hother]
              exact ⟨rfl, hafter⟩
          | ok value =>
              rw [run_bind_of_ok hstate, run_bind_of_ok hother]
              exact hnext value after after' hafter

/-- What comes next may look at what related states have in common. -/
theorem respects_get_bind {next : σ → ExceptT ε (StateM σ) β}
    (hsame : ∀ state other, relation state other → next state = next other)
    (hnext : ∀ state, Respects relation (next state)) : Respects relation (get >>= next) := by
  intro state other hrelated
  change Agree relation ((next state).run.run state) ((next other).run.run other)
  rw [hsame state other hrelated]
  exact hnext other state other hrelated

end CyclicDma
