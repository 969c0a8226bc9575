import CyclicDma.Proofs.Board.Confinement
import CyclicDma.Proofs.Driver.Timing

/-! # How long operations block

Whoever asks something of a board waits for it for a limited time, whatever the hardware
does meanwhile. Only submitting, starting and stopping take time at all, and only at the
controller that they are for. So the limits of operations that follow each other add up.
-/

namespace CyclicDma

open Controller (waitBound)

/-- The most microseconds that an operation takes. -/
def Operation.limit : Operation → Nat
  | controller _ (.stopManager _) | channel _ (.submit ..) => waitBound
  | channel _ (.stop _) => 2 * waitBound
  | channel _ (.start _) => 4 * waitBound
  | _ => 0

theorem Operation.limit_le (operation : Operation) : operation.limit ≤ 4 * waitBound := by
  unfold limit
  split <;> decide

/-- What an operation asks for is within its limit. -/
theorem Operation.limit_of_asks {board : Board} {operation : Operation} {index : Nat}
    {demand : Driver.Demand} (hasks : operation.Asks board index demand) :
    demand.limit = operation.limit := by
  cases operation with
  | controller other operation =>
      obtain ⟨-, hasks⟩ := hasks
      cases operation with
      | change | allocate | deinit | interrupt | dispatch | removeOwner =>
          rw [show demand = _ from hasks]
          rfl
      | init | stopManager =>
          obtain ⟨_, rfl⟩ := hasks
          rfl
      | release =>
          obtain ⟨_, -, -, rfl⟩ := hasks
          rfl
      | device | managerState | managerFault => exact hasks.elim
  | channel name operation =>
      obtain ⟨_, -, -, hasks⟩ := hasks
      cases operation with
      | submit | start | stop | unregister =>
          obtain ⟨_, rfl⟩ := hasks
          rfl
      | register =>
          rw [show demand = _ from hasks]
          rfl
      | state | inspect | nextPeriod | abandon => exact hasks.elim
  | future name operation =>
      obtain ⟨_, -, -, hasks⟩ := hasks
      cases operation with
      | poll =>
          rw [show demand = _ from hasks]
          rfl
      | block => rcases hasks with ⟨_, rfl⟩ | rfl | ⟨_, rfl⟩ | rfl | rfl <;> rfl
      | drop => exact hasks.elim
  | references | memory => exact hasks.elim

namespace Board

variable {board : Board} {operation : Operation} {index : Nat} {before : Controller}

/-- Whatever does not wait is done at once, however much of it is asked for. -/
theorem lastsAtMost_of_limit (hlimit : operation.limit = 0)
    (hfound : board.controllers[index]? = some before) :
    ∃ after, (board.perform operation).2.controllers[index]? = some after ∧
      Controller.LastsAtMost 0 before after := by
  have : Std.Refl (Controller.LastsAtMost 0) := ⟨.refl 0⟩
  have : IsTrans Controller (Controller.LastsAtMost 0) := ⟨fun _ _ _ => .trans⟩
  refine related_of_asks (fun demand hasks driver => ?_) hfound
  have hdemand := demand.lastsAtMost driver
  rwa [Operation.limit_of_asks hasks, hlimit] at hdemand

/-- An operation that drives a channel takes as long as its controller takes to drive
it. -/
theorem lastsAtMost_drive {name bound : Nat} {request : ChannelOperation}
    (hfound : board.controllers[index]? = some before) (world : World)
    (action : Handle → World → Attempt Controller Unit)
    (hstep : ∀ handle, stepChannel handle request = (do
      let world ← during handle.controller world
      exclusively handle (Driver.onController (action handle world))
      return .done))
    (hbound : ∀ handle world controller,
      Controller.LastsAtMost bound controller ((action handle world).perform controller).2) :
    ∃ after, (board.perform (.channel name request)).2.controllers[index]? = some after ∧
      Controller.LastsAtMost bound before after := by
  cases hhandle : board.handle? name with
  | none =>
      rw [perform_channel_of_none hhandle]
      exact ⟨before, hfound, .refl bound before⟩
  | some handle =>
      by_cases hsame : handle.controller = index
      · subst hsame
        rw [perform_channel hhandle, hstep]
        obtain ⟨result, after, hdriven, hafter, -⟩ := drive_cases hfound (action handle) rfl
        have hlasts := hbound handle (world.delayed before.clock) before
        rw [hdriven] at hlasts
        exact ⟨after, hafter, hlasts⟩
      · have htarget : (Operation.channel name request).target? board ≠ some index := by
          simpa [Operation.target?, hhandle] using hsame
        exact ⟨before, found_perform_of_target htarget hfound, .refl bound before⟩

theorem lastsAtMost_stopManager (world : World) (other : Nat)
    (hfound : board.controllers[index]? = some before) :
    ∃ after, (board.perform (.controller other (.stopManager world))).2.controllers[index]? =
        some after ∧
      Controller.LastsAtMost waitBound before after := by
  by_cases hsame : other = index
  · subst hsame
    have hduring : (during other world).run.run board =
        (.ok (world.delayed before.clock), board) := run_bind_of_ok (run_view hfound _) _
    have hperform : board.perform (.controller other (.stopManager world)) =
        (do
          attempt other (Driver.onController (Controller.stopManager (world.delayed before.clock)))
          return .done : Step Answer).run.run board := run_bind_of_ok hduring _
    have hattempt := run_attempt hfound
      (Driver.onController (Controller.stopManager (world.delayed before.clock)))
    have hlasts := Controller.lastsAtMost_stopManager (world.delayed before.clock) before
    rw [Driver.perform_onController] at hattempt
    cases hstop : (Controller.stopManager (world.delayed before.clock)).perform before with
    | mk result after =>
        dsimp only at hattempt
        rw [hstop] at hattempt hlasts
        refine ⟨after, ?_, hlasts⟩
        cases result with
        | error error =>
            rw [hperform, run_bind_of_error hattempt]
            exact found_withDriver hfound ⟨after, board.references⟩
        | ok value =>
            rw [hperform, run_bind_of_ok hattempt]
            exact found_withDriver hfound ⟨after, board.references⟩
  · have htarget : Operation.target? board (.controller other (.stopManager world)) ≠ some index :=
      fun htarget => hsame (Option.some.inj htarget)
    exact ⟨before, found_perform_of_target htarget hfound, .refl _ before⟩

/-- No operation takes longer than its limit at any controller. -/
theorem lastsAtMost_perform (operation : Operation)
    (hfound : board.controllers[index]? = some before) :
    ∃ after, (board.perform operation).2.controllers[index]? = some after ∧
      Controller.LastsAtMost operation.limit before after := by
  by_cases hlimit : operation.limit = 0
  · rw [hlimit]
    exact lastsAtMost_of_limit hlimit hfound
  · cases operation with
    | controller other operation =>
        cases operation with
        | stopManager world => exact lastsAtMost_stopManager world other hfound
        | _ => exact absurd rfl hlimit
    | channel name request =>
        cases request with
        | submit order world =>
            exact lastsAtMost_drive hfound world
              (fun handle world => Controller.submit world handle.channel order) (fun _ => rfl)
              fun handle world => Controller.lastsAtMost_submit world handle.channel order
        | start world =>
            exact lastsAtMost_drive hfound world
              (fun handle world => Controller.start world handle.channel) (fun _ => rfl)
              fun handle world controller =>
                Driver.Demand.lastsAtMost (.start world handle.channel) ⟨controller, []⟩
        | stop world =>
            exact lastsAtMost_drive hfound world
              (fun handle world => Controller.stop world handle.channel) (fun _ => rfl)
              fun handle world controller =>
                Driver.Demand.lastsAtMost (.stop world handle.channel) ⟨controller, []⟩
        | _ => exact absurd rfl hlimit
    | _ => exact absurd rfl hlimit

/-- No operation blocks for longer than four waits, or twenty milliseconds. -/
theorem lastsAtMost_perform_four (operation : Operation)
    (hfound : board.controllers[index]? = some before) :
    ∃ after, (board.perform operation).2.controllers[index]? = some after ∧
      Controller.LastsAtMost 20000 before after := by
  obtain ⟨after, hafter, hlasts⟩ := lastsAtMost_perform operation hfound
  exact ⟨after, hafter, hlasts.mono operation.limit_le⟩

/-- Operations that follow each other take no longer than their limits together. -/
theorem lastsAtMost_performAll (operations : List Operation)
    (hfound : board.controllers[index]? = some before) :
    ∃ after, (board.performAll operations).controllers[index]? = some after ∧
      Controller.LastsAtMost (operations.map Operation.limit).sum before after := by
  induction operations generalizing board before with
  | nil => exact ⟨before, hfound, .refl 0 before⟩
  | cons operation operations ih =>
      obtain ⟨middle, hmiddle, hfirst⟩ := lastsAtMost_perform operation hfound
      obtain ⟨after, hafter, hrest⟩ := ih hmiddle
      refine ⟨after, hafter, ?_⟩
      rw [List.map_cons, List.sum_cons]
      exact hfirst.trans hrest

end Board

end CyclicDma
