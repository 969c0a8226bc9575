import CyclicDma.Proofs.Board.Hearing
import CyclicDma.Proofs.Board.Reachable
import CyclicDma.Proofs.Controller.Tending

/-! # Operations stay where they belong

Whoever holds a channel works on that channel, and on nothing else of the controller,
whatever the hardware does meanwhile. Controllers do not reach each other at all: an
operation works on the controller that it is for, and only the references to owners are
shared.
-/

namespace CyclicDma

/-- The world during an operation on a channel. -/
def ChannelOperation.world : ChannelOperation → World
  | submit _ world | start world | stop world => world
  | _ => fun _ => []

/-- The world during an operation of whoever holds a channel. -/
def Operation.world : Operation → World
  | channel _ operation => operation.world
  | _ => fun _ => []

/-- The operation is made by whoever holds a channel of a controller: the channel is
called, or a future of the channel is polled. -/
inductive Operation.Through (board : Board) : Operation → Nat → Nat → Prop
  | channel {name handle} (hhandle : board.handle? name = some handle) (operation) :
      Through board (.channel name operation) handle.controller handle.channel
  | poll {name held} (hfuture : board.future? name = some held) (waker) :
      Through board (.future name (.poll waker)) held.controller held.future.channel

/-- The controller that an operation is for. -/
def Operation.target? (board : Board) : Operation → Option Nat
  | controller index _ => some index
  | channel name _ => (board.handle? name).map (·.controller)
  | future name _ => (board.future? name).map (·.controller)
  | _ => none

/-- Nothing is asked of any other controller. -/
theorem Operation.target?_of_asks {board : Board} {operation : Operation} {index : Nat}
    {demand : Driver.Demand} (hasks : operation.Asks board index demand) :
    operation.target? board = some index := by
  cases operation with
  | controller => exact congrArg some hasks.1.symm
  | channel =>
      obtain ⟨handle, hhandle, rfl, -⟩ := hasks
      rw [Operation.target?, hhandle]
      rfl
  | future =>
      obtain ⟨held, hheld, rfl, -⟩ := hasks
      rw [Operation.target?, hheld]
      rfl
  | references | memory => exact hasks.elim

namespace Board

variable {board : Board} {before : Controller} {index channel : Nat}

/-- A preorder that every demand on a controller follows is followed by the operation. -/
theorem related_of_asks {relation : Controller → Controller → Prop} [Std.Refl relation]
    [IsTrans Controller relation] {operation : Operation}
    (hdemand : ∀ demand, operation.Asks board index demand →
      ∀ driver, relation driver.controller (demand.perform driver).controller)
    (hfound : board.controllers[index]? = some before) :
    ∃ after, (board.perform operation).2.controllers[index]? = some after ∧
      relation before after := by
  refine Works.related (serves_perform operation board) (fun earlier later hserves => ?_) hfound
  let _ : Std.Refl fun first second : Driver => relation first.controller second.controller :=
    ⟨fun _ => Std.Refl.refl _⟩
  let _ : IsTrans Driver fun first second => relation first.controller second.controller :=
    ⟨fun _ _ _ => IsTrans.trans _ _ _⟩
  exact @Driver.Serves.follow _
    (fun first second => relation first.controller second.controller) _ _ _ _ hserves hdemand

/-! ## Channels -/

theorem tends_register (channel : Nat) (callback : Callback) (context : UInt64)
    (owner : Option Nat) (driver : Driver) :
    Controller.Tends channel driver.controller
      ((Driver.register channel callback context owner).perform driver).2.controller := by
  cases hregister :
      (driver.controller.notificationsOf channel).register callback context owner with
  | error error =>
      rw [Driver.perform_register_of_error hregister]
      exact .refl channel _
  | ok registered =>
      rw [Driver.perform_register_of_ok hregister]
      exact Controller.tends_updateNotifications ..

theorem tends_unregister (channel : Nat) (id : UInt32) (driver : Driver) :
    Controller.Tends channel driver.controller
      ((Driver.unregister channel id).perform driver).2.controller := by
  cases hunregister : (driver.controller.notificationsOf channel).unregister id with
  | error error =>
      rw [Driver.perform_unregister_of_error hunregister]
      exact .refl channel _
  | ok registered =>
      rw [Driver.perform_unregister_of_ok hunregister]
      exact Controller.tends_updateNotifications ..

theorem tends_pollPeriod (future : PeriodFuture) (waker : Waker) (controller : Controller) :
    Controller.Tends future.channel controller (controller.pollPeriod future waker).2 := by
  rcases Controller.pollPeriod_cases future waker controller with ⟨result, hready⟩ | hpending
  · rw [hready]
    exact .refl ..
  · rw [hpending]
    exact Controller.tends_updateNotifications ..

/-- An operation of whoever holds the channel is done for the channel, while the world
takes its course. -/
theorem tending_perform {operation : Operation} (hthrough : operation.Through board index channel)
    (hchannel : ∀ name handle, board.handle? name = some handle → handle.channel < 32)
    (hfound : board.controllers[index]? = some before) :
    ∃ after, (board.perform operation).2.controllers[index]? = some after ∧
      Controller.Tending (operation.world.delayed before.clock) channel before after := by
  cases hthrough with
  | @channel name handle hhandle operation =>
      have hparts := Controller.submittingIn_tending (hchannel name handle hhandle)
        (operation.world.delayed before.clock)
      -- a channel that is driven waits for the hardware, and everything else is done at once
      have hdrive : ∀ action : World → Attempt Controller Unit,
          stepChannel handle operation = (do
            let world ← during handle.controller operation.world
            exclusively handle (Driver.onController (action world))
            return .done) →
          Follows (Controller.Tending (operation.world.delayed before.clock) handle.channel)
            (action (operation.world.delayed before.clock)) →
          ∃ after, (board.perform (.channel name operation)).2.controllers[handle.controller]? =
              some after ∧
            Controller.Tending (operation.world.delayed before.clock) handle.channel before
              after := by
        intro action hstep hfollows
        rw [perform_channel hhandle, hstep]
        obtain ⟨result, after, hdriven, hafter, -⟩ := drive_cases hfound action rfl
        refine ⟨after, hafter, ?_⟩
        have htending := hfollows before
        change Controller.Tending _ _ _ ((action _).perform before).2 at htending
        rwa [hdriven] at htending
      cases operation with
      | submit order world =>
          exact hdrive (Controller.submit · handle.channel order) rfl (hparts.submit order)
      | start world => exact hdrive (Controller.start · handle.channel) rfl hparts.start
      | stop world => exact hdrive (Controller.stop · handle.channel) rfl hparts.stop
      | register callback context owner =>
          refine related_of_asks ?_ hfound
          rintro _ ⟨held, hheld, -, rfl⟩ driver
          cases hhandle.symm.trans hheld
          exact (tends_register ..).tending
      | unregister number =>
          refine related_of_asks ?_ hfound
          rintro _ ⟨held, hheld, -, id, rfl⟩ driver
          cases hhandle.symm.trans hheld
          exact (tends_unregister ..).tending
      | state | inspect | nextPeriod | abandon =>
          refine related_of_asks ?_ hfound
          rintro _ ⟨_, _, _, hnone⟩
          exact hnone.elim
  | @poll name held hfuture waker =>
      refine related_of_asks ?_ hfound
      rintro _ ⟨other, hother, -, rfl⟩ driver
      cases hfuture.symm.trans hother
      exact (tends_pollPeriod ..).tending

/-! ## Controllers -/

/-- An operation leaves all controllers alone that it is not for. -/
theorem found_perform_of_target {operation : Operation}
    (htarget : operation.target? board ≠ some index)
    (hfound : board.controllers[index]? = some before) :
    (board.perform operation).2.controllers[index]? = some before := by
  obtain ⟨after, hafter, rfl⟩ := @related_of_asks _ _ _ Eq _ _ _
    (fun _ hasks => absurd (Operation.target?_of_asks hasks) htarget) hfound
  exact hafter

/-- Whoever holds a channel does not disturb the other channels of its controller, for
every course of the world: the operation consists of things that are done for the
channel, and of pauses. If the world only changes registers, what belongs to the other
channels is in the end as it was. No operation changes anything about another
controller, also when a channel is to be released where it does not belong. -/
theorem Reachable.confines (hboard : board.Reachable) (operation : Operation) :
    (∀ index channel before, operation.Through board index channel →
      board.controllers[index]? = some before →
      ∃ after, (board.perform operation).2.controllers[index]? = some after ∧
        Controller.Tending (operation.world.delayed before.clock) channel before after ∧
        (operation.Causes Disturbance.IsChange → Controller.Confined channel before after)) ∧
    (∀ index controller, operation.target? board ≠ some index →
      board.controllers[index]? = some controller →
      (board.perform operation).2.controllers[index]? = some controller) ∧
    ∀ index name handle, operation = .controller index (.release name) →
      board.handle? name = some handle → handle.controller ≠ index →
      (board.perform operation).1 = .error (.failed .invalidHandle) ∧
        (board.perform operation).2.controllers = board.controllers := by
  refine ⟨fun index channel before hthrough hfound => ?_,
    fun index controller htarget hfound => found_perform_of_target htarget hfound, ?_⟩
  · obtain ⟨after, hafter, htending⟩ :=
      tending_perform hthrough (fun name handle hhandle => hboard.channel_lt hhandle) hfound
    refine ⟨after, hafter, htending, fun hcauses => htending.confined ?_⟩
    cases hthrough with
    | channel hhandle operation =>
        cases operation with
        | submit order world | start world | stop world => exact World.Causes.delayed hcauses _
        | _ => exact World.Causes.delayed (fun _ _ hmem => absurd hmem List.not_mem_nil) _
    | poll => exact World.Causes.delayed (fun _ _ hmem => absurd hmem List.not_mem_nil) _
  · rintro index name handle rfl hhandle hforeign
    rw [perform_release_of_ne hhandle hforeign]
    exact ⟨rfl, rfl⟩

/-- Two controllers, with two channels and with one. -/
def pairBoard : Board :=
  { controllers := [
      { registers := .zero
        config := {}
        setup := none
        notifications := [{}, {}]
        clock := 0
        history := [] },
      { registers := .zero
        config := {}
        setup := none
        notifications := [{}]
        clock := 0
        history := [] }]
    references := [] }

/-- The second channel of the first controller is held and executes, and the events of
both channels are enabled. The debug interface is busy. -/
def pairOperations : List Operation :=
  [.controller 0 (.change [(.configuration 0, 0x20010)]),
    .controller 0 (.init (.fresh (List.replicate 512 0)) 0x1000 (Config.withBurst 1 4 {})),
    .controller 0 (.allocate 7 (some 1)),
    .controller 0 (.change [(.status 1, 1), (.interruptEnable, 3), (.debugStatus, 1)])]

/-- While the driver waits, another event is enabled by someone else. -/
def meddlingWorld : World
  | 1 => [.change .interruptEnable 7, .change .debugStatus 0]
  | _ => []

theorem causes_meddling : meddlingWorld.Causes Disturbance.IsChange := by
  intro time
  unfold meddlingWorld
  split <;> simp [Disturbance.IsChange]

/-- The channel is stopped after a wait. Its own event is masked then, and the one that
was enabled during the wait is not. -/
theorem confines_pair :
    ∃ before after, (pairBoard.performAll pairOperations).controllers[0]? = some before ∧
      ((pairBoard.performAll pairOperations).perform
        (.channel 7 (.stop meddlingWorld))).2.controllers[0]? = some after ∧
      before.read .interruptEnable = 3 ∧ after.read .interruptEnable = 5 ∧
      Controller.Confined 1 before after ∧
      ((pairBoard.performAll pairOperations).perform (.controller 1 (.release 7))).2.controllers =
        (pairBoard.performAll pairOperations).controllers := by
  have hreached : (pairBoard.performAll pairOperations).Reachable :=
    (Reachable.new (show new? [2, 1] 0 = some pairBoard from rfl)).performAll _
  have hhandle : (pairBoard.performAll pairOperations).handle? 7 = some ⟨7, 0, 1⟩ := by
    decide +kernel
  have hbefore : (pairBoard.performAll pairOperations).controllers.map (·.read .interruptEnable) =
      [3, 0] := by
    decide +kernel
  have hafter : ((pairBoard.performAll pairOperations).perform
      (.channel 7 (.stop meddlingWorld))).2.controllers.map (·.read .interruptEnable) =
        [5, 0] := by
    decide +kernel
  have hread : ∀ {board : Board} {controller : Controller} {values : List UInt32},
      board.controllers.map (·.read .interruptEnable) = values →
      board.controllers[0]? = some controller →
      some (controller.read .interruptEnable) = values[0]? := by
    rintro board controller _ rfl hfound
    rw [List.getElem?_map, hfound]
    rfl
  cases hfound : (pairBoard.performAll pairOperations).controllers[0]? with
  | none =>
      rw [List.getElem?_eq_none_iff, ← List.length_map (·.read .interruptEnable), hbefore] at hfound
      cases hfound
  | some before =>
      obtain ⟨after, hlater, -, hconfined⟩ :=
        (hreached.confines (.channel 7 (.stop meddlingWorld))).1 0 1 before (.channel hhandle _)
          hfound
      obtain ⟨-, hkept⟩ :=
        (hreached.confines (.controller 1 (.release 7))).2.2 1 7 _ rfl hhandle (by decide)
      exact ⟨before, after, rfl, hlater, Option.some.inj (hread hbefore hfound),
        Option.some.inj (hread hafter hlater), hconfined causes_meddling, hkept⟩

end Board

end CyclicDma
