import CyclicDma.Proofs.Board.Masking

/-! # Period futures

A period future is ready as soon as a period of its channel was taken for delivery
after the future was made. Periods that are only acknowledged do not count. What
was delivered stays delivered, so a future that is ready stays ready, whatever
becomes of the channel.
-/

namespace CyclicDma

/-! ## Polls at a controller -/

namespace Controller

variable {start middle last controller : Controller} {channel : Nat} {account : Account}

end Controller

namespace Board

variable {board created later final : Board} {handle : Handle} {start controller : Controller}
variable {client name : Nat}

/-! ## Whatever happens -/

/-- Something happens to a board, without restriction. -/
inductive Proceeds : Board → Board → Prop
  | perform (operation : Operation) (board) : Proceeds board (board.perform operation).2
  | deliver (index depth board) :
      Proceeds board
        ((onDriver index fun driver => ((), driver.dispatchNested depth)).run.run board).2

/-- Any number of things happen. -/
abbrev Onward : Board → Board → Prop :=
  Relation.ReflTransGen Proceeds

theorem Onward.moves (honward : Onward created later) :
    Moves (fun _ => True) (fun _ _ => True) created later := by
  induction honward with
  | refl => exact .refl
  | tail _ hproceeds ih =>
      cases hproceeds with
      | perform operation => exact ih.trans (moves_anything operation _)
      | deliver index depth => exact ih.trans (uses_deliver index depth _).moves

/-- Polling a future is a poll at its controller. -/
theorem perform_poll {held : HeldFuture} (hheld : board.future? name = some held)
    (hfound : board.controllers[held.controller]? = some controller) (waker : Waker) :
    board.perform (.future name (.poll waker)) =
      ((match (controller.pollPeriod held.future waker).1 with
        | .pending => .ok .pending
        | .ready (.ok ()) => .ok .ready
        | .ready (.error error) => .error (.failed error)),
        board.withDriver held.controller
          ⟨(controller.pollPeriod held.future waker).2, board.references⟩) := by
  have hexisting : (existing (board.future? name)).run.run board = (.ok held, board) := by
    rw [hheld]
    rfl
  have hpolled := run_onDriver hfound fun driver =>
    ((driver.controller.pollPeriod held.future waker).1,
      { driver with controller := (driver.controller.pollPeriod held.future waker).2 })
  refine (run_bind_of_ok rfl _).trans ((run_bind_of_ok hexisting _).trans ?_)
  refine (run_bind_of_ok hpolled _).trans ?_
  dsimp only [StateT.run]
  cases (controller.pollPeriod held.future waker).1 with
  | pending => rfl
  | ready result =>
      cases result with
      | error error => rfl
      | ok value => rfl

/-- A client waits for a period of the ring. -/
def waitingOperations : List Operation :=
  ringOperations ++ [.channel 7 (.nextPeriod 1)]

/-- A period is acknowledged and delivered. -/
def deliveringOperations : List Operation :=
  [.controller 0 (.change [(.eventStatus, 1)]), .controller 0 .interrupt, .controller 0 .dispatch]

end Board

end CyclicDma
