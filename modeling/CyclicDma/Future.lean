/-! # Futures

A future is polled until it is ready. Polling is a step of a state, which is
whatever the future depends on.
-/

namespace CyclicDma

/-- The answer of a future. -/
inductive Poll (α : Type) where
  | pending
  | ready (value : α)
deriving DecidableEq, Repr

namespace Poll

variable {σ α : Type}

/-- Poll a future until it is ready, a number of times at most. -/
def block (poll : σ → Poll α × σ) : (polls : Nat) → σ → Option α × σ
  | 0, state => (none, state)
  | polls + 1, state =>
      match poll state with
      | (.ready value, next) => (some value, next)
      | (.pending, next) => block poll polls next

/-- Poll a future a number of times, and collect its answers. -/
def collect (poll : σ → Poll α × σ) : (polls : Nat) → σ → List (Poll α)
  | 0, _ => []
  | polls + 1, state => (poll state).1 :: collect poll polls (poll state).2

end Poll

/-- A future that is pending a number of times, and then ready with the number of
its polls. -/
structure Countdown where
  pending : Nat
  polls : Nat := 0

def Countdown.poll (countdown : Countdown) : Poll Nat × Countdown :=
  let next := { countdown with polls := countdown.polls + 1 }
  if next.polls ≤ next.pending then (.pending, next) else (.ready next.polls, next)

/-- Block on the countdown. It is ready after its pending polls. -/
def Countdown.block (countdown : Countdown) : Option Nat :=
  (Poll.block Countdown.poll (countdown.pending + 1) countdown).1

end CyclicDma
