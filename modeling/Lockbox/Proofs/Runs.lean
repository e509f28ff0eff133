import Lockbox.Machine

/-!
# Runs of actions

Drawings and actions are both computations that change a state and may fail. Each equation says
what one step of such a computation does to the state, so that later proofs never open the monad.
-/

namespace Lockbox

section Steps

variable {σ ε α β : Type}

/-- A run of two steps: the second one starts where the first one ends, unless that failed. -/
theorem run_bind
    (first : ExceptT ε (StateM σ) α)
    (next : α → ExceptT ε (StateM σ) β)
    (state : σ) :
    (first >>= next) state =
      match first state with
      | (.ok value, after) => next value after
      | (.error failure, after) => (.error failure, after) := by
  simp only [bind, ExceptT.bind, ExceptT.mk, StateT.bind]
  cases first state with
  | mk outcome after => cases outcome <;> rfl

theorem run_bind_of_ok
    {first : ExceptT ε (StateM σ) α}
    {next : α → ExceptT ε (StateM σ) β}
    {state after : σ}
    {value : α}
    (succeeded : first state = (.ok value, after)) :
    (first >>= next) state = next value after := by
  rw [run_bind, succeeded]

theorem run_bind_of_error
    {first : ExceptT ε (StateM σ) α}
    {next : α → ExceptT ε (StateM σ) β}
    {state after : σ}
    {failure : ε}
    (failed : first state = (.error failure, after)) :
    (first >>= next) state = (.error failure, after) := by
  rw [run_bind, failed]

/-- Both steps of a run that succeeds have succeeded. -/
theorem exists_of_bind_eq_ok
    {first : ExceptT ε (StateM σ) α}
    {next : α → ExceptT ε (StateM σ) β}
    {state after : σ}
    {result : β}
    (ran : (first >>= next) state = (.ok result, after)) :
    ∃ value between, first state = (.ok value, between) ∧
      next value between = (.ok result, after) := by
  rw [run_bind] at ran
  split at ran
  next value between succeeded => exact ⟨value, between, succeeded, ran⟩
  next => cases (Prod.mk.inj ran).1

@[simp] theorem run_pure (value : α) (state : σ) :
    (pure value : ExceptT ε (StateM σ) α) state = (.ok value, state) := rfl

/-- A plain outcome leaves the state alone. -/
@[simp] theorem run_liftM (outcome : Except ε α) (state : σ) :
    (liftM outcome : ExceptT ε (StateM σ) α) state = (outcome, state) := rfl

/-- Telling failures in another way leaves the state alone. -/
theorem run_adapt
    {ε' : Type}
    (retell : ε → ε')
    (action : ExceptT ε (StateM σ) α)
    (state : σ) :
    ExceptT.adapt retell action state =
      ((action state).1.mapError retell, (action state).2) := rfl

end Steps

end Lockbox
