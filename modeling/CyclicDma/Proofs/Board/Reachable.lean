import CyclicDma.Proofs.Board.Handover

/-! # Reachable boards

A board is reached by operations of its clients and of the outside world, one
after the other, starting with new controllers. Whatever the operations are, and
whether they are refused or not, each controller takes steps.
-/

namespace CyclicDma.Board

/-- Boards that come about. Apart from the operations, periods may be delivered
with reactions that are nested to any depth. -/
inductive Reachable : Board → Prop
  | new {channels owners board} (hnew : new? channels owners = some board) : Reachable board
  | perform {board} (operation : Operation) (hboard : Reachable board) :
      Reachable (board.perform operation).2
  | deliver {board} (index depth : Nat) (hboard : Reachable board) :
      Reachable
        ((onDriver index fun driver => ((), driver.dispatchNested depth)).run.run board).2

/-- What holds of new boards, and is kept when controllers are used, when
something is handed over and when a controller is initialized, holds at all
times. -/
theorem Reachable.keep {invariant : Board → Prop} {board : Board} (hboard : board.Reachable)
    (hnew : ∀ {channels owners board}, new? channels owners = some board → invariant board)
    (huses : ∀ {before after}, Uses (fun _ => True) (fun _ _ => True) before after →
      invariant before → invariant after)
    (hhandover : ∀ {before after}, Handover before after → invariant before → invariant after)
    (hopening : ∀ {index source busAddress config board outcome},
      Opening index source busAddress config board outcome → invariant board →
      invariant outcome.2) : invariant board := by
  induction hboard with
  | new hfresh => exact hnew hfresh
  | @perform board operation hboard ih =>
      rcases perform_cases operation board with hused | hhanded | ⟨_, _, _, _, rfl⟩
      · exact huses hused ih
      · exact hhandover hhanded ih
      · exact hopening (opening_perform ..) ih
  | deliver index depth hboard ih => exact huses (uses_deliver index depth _) ih

/-! ## Histories of controllers -/

/-- Each controller takes steps. -/
def Extends (before after : Board) : Prop :=
  ∀ (index : Nat) (controller : Controller), after.controllers[index]? = some controller →
    ∃ earlier, before.controllers[index]? = some earlier ∧ Controller.Steps earlier controller

/-- Moves of the drivers are steps of their controllers. -/
theorem Moves.extends {allowed : Disturbance → Prop} {held : Nat → Nat → Prop}
    {before after : Board} (hmoves : Moves allowed held before after) : Extends before after := by
  refine Works.keep (Extends before) hmoves ?_ ?_ ?_
  · intro board index controller driver hfound hdriver hextends other later hlater
    have hset : (board.controllers.set index driver.controller)[other]? = some later := hlater
    rw [List.getElem?_set] at hset
    split at hset
    next hsame =>
      subst hsame
      split at hset
      · cases hset
        obtain ⟨earlier, hearlier, hsteps⟩ := hextends _ _ hfound
        exact ⟨earlier, hearlier, hsteps.trans hdriver.steps⟩
      · cases hset
    next => exact hextends _ _ hset
  · intro board after hsame _ _ hextends index controller hfound
    exact hextends index controller (hsame ▸ hfound)
  · intro index controller hfound
    exact ⟨controller, hfound, .refl⟩

/-- A controller is where it was, and took steps. -/
theorem Moves.found {allowed : Disturbance → Prop} {held : Nat → Nat → Prop}
    {before after : Board} {index : Nat} {start : Controller}
    (hmoves : Moves allowed held before after) (hfound : before.controllers[index]? = some start) :
    ∃ controller, after.controllers[index]? = some controller ∧
      Controller.Steps start controller := by
  have hlength : after.controllers.length = before.controllers.length := by
    refine Works.keep (fun board => board.controllers.length = before.controllers.length)
      hmoves ?_ ?_ rfl
    · intro board index controller driver _ _ hsame
      exact (List.length_set ..).trans hsame
    · intro middle after hcontrollers _ _ hsame
      rw [hcontrollers, hsame]
  obtain ⟨hbound, -⟩ := List.getElem?_eq_some_iff.mp hfound
  have hafter := List.getElem?_eq_getElem (hlength ▸ hbound)
  refine ⟨_, hafter, ?_⟩
  obtain ⟨earlier, hearlier, hsteps⟩ := hmoves.extends _ _ hafter
  rw [hfound] at hearlier
  cases hearlier
  exact hsteps

/-- Whatever the operation is, the drivers make moves. -/
theorem moves_anything (operation : Operation) (board : Board) :
    Moves (fun _ => True) (fun _ _ => True) board (board.perform operation).2 :=
  moves_perform (fun _ _ _ _ _ => trivial) (Operation.causes_anything operation)

/-! ## Reachable controllers -/

/-- Each controller of a new board is new. -/
theorem new_of_new? {channels : List Nat} {owners : Nat} {board : Board}
    (hnew : new? channels owners = some board) :
    ∀ controller ∈ board.controllers, ∃ managed, Controller.new? managed = some controller := by
  obtain ⟨controllers, hcontrollers, rfl⟩ := Option.map_eq_some_iff.mp hnew
  clear hnew
  induction channels generalizing controllers with
  | nil =>
      cases hcontrollers
      intro controller hmem
      exact absurd hmem List.not_mem_nil
  | cons managed rest ih =>
      rw [List.mapM_cons] at hcontrollers
      obtain ⟨first, hfirst, hrest⟩ := Option.bind_eq_some_iff.mp hcontrollers
      obtain ⟨others, hothers, heq⟩ := Option.bind_eq_some_iff.mp hrest
      cases heq
      exact List.forall_mem_cons.mpr ⟨⟨managed, hfirst⟩, ih others hothers⟩

/-- Every controller of a reachable board comes about by steps from a new
one. -/
theorem Reachable.controllers {board : Board} (hboard : board.Reachable) :
    ∀ controller ∈ board.controllers, controller.Reachable := by
  have hkept : ∀ before after : Board, Moves (fun _ => True) (fun _ _ => True) before after →
      (∀ controller ∈ before.controllers, controller.Reachable) →
      ∀ controller ∈ after.controllers, controller.Reachable := by
    intro before after hmoves hbefore controller hmem
    obtain ⟨index, hfound⟩ := List.mem_iff_getElem?.mp hmem
    obtain ⟨earlier, hearlier, hsteps⟩ := hmoves.extends index controller hfound
    obtain ⟨channels, start, hnew, hstart⟩ := hbefore earlier (List.mem_of_getElem? hearlier)
    exact ⟨channels, start, hnew, hstart.trans hsteps⟩
  induction hboard with
  | new hnew =>
      intro controller hmem
      obtain ⟨channels, hcontroller⟩ := new_of_new? hnew controller hmem
      exact ⟨channels, controller, hcontroller, .refl⟩
  | perform operation hboard ih => exact hkept _ _ (moves_anything operation _) ih
  | deliver index depth hboard ih => exact hkept _ _ (uses_deliver index depth _).moves ih

/-! ## Runs of operations -/

/-- Perform operations, one after the other. -/
def performAll (operations : List Operation) (board : Board) : Board :=
  operations.foldl (fun board operation => (board.perform operation).2) board

theorem Reachable.performAll {board : Board} (hboard : board.Reachable) (operations : List Operation) :
    (board.performAll operations).Reachable := by
  induction operations generalizing board with
  | nil => exact hboard
  | cons operation operations ih => exact ih (hboard.perform operation)

/-- A board with one controller, whose driver manages one channel. -/
def smallBoard : Board :=
  { controllers := [
      { registers := .zero
        config := {}
        setup := none
        notifications := [{}]
        clock := 0
        history := [] }]
    references := [] }

/-- Two periods between places in memory. -/
def ringOrder : Order :=
  { direction := .memoryToMemory
    source := 0x2000
    destination := 0x3000
    totalBytes := 12
    periodBytes := 6 }

/-- Submitting the order. The registers are zero, so the bus carries single
bytes. -/
def ringOperations : List Operation :=
  [.controller 0 (.init (.fresh (List.replicate 256 0)) 0x1000 (Config.withBurst 1 4 {})),
    .controller 0 (.allocate 7 none), .channel 7 (.submit ringOrder fun _ => [])]

theorem reachable_ring : (smallBoard.performAll ringOperations).Reachable :=
  (Reachable.new (show new? [1] 0 = some smallBoard from rfl)).performAll ringOperations

/-- The board before the order is submitted. -/
def readyBoard : Board :=
  smallBoard.performAll (ringOperations.take 2)

theorem reachable_ready : readyBoard.Reachable :=
  (Reachable.new (show new? [1] 0 = some smallBoard from rfl)).performAll _

end CyclicDma.Board
