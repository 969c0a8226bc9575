import CyclicDma.Proofs.Board.Hearing

/-! # Masking channels that do not run

The event of a channel is enabled only while the channel runs, unless it went
astray. That happens when a stop finds the channel stopping and leaves it alone,
or when the interrupt handler kills the channel while its driver waits to start
it. The event stays astray until it is masked or the channel runs again.
-/

namespace CyclicDma.Board

variable {start board before after : Board} {controller : Controller}
variable {index channel : Nat}

/-- The event of a channel is enabled, but the channel does not run. -/
def IsStray (index channel : Nat) (board : Board) : Prop :=
  ∃ controller, board.controllers[index]? = some controller ∧
    Controller.hasChannel (controller.read .interruptEnable) channel = true ∧
      controller.isRunning channel = false

instance : Decidable (IsStray index channel board) :=
  decidable_of_iff
    ((board.controllers[index]?).any fun controller =>
      Controller.hasChannel (controller.read .interruptEnable) channel &&
        !controller.isRunning channel)
    (by simp [IsStray, Option.any_eq_true])

/-- The event of a channel was led astray, and has been a stray one ever since. -/
inductive WentAstray (start : Board) (index channel : Nat) : Board → Prop
  | mislead {board : Board} {operation : Operation} (hruns : Runs start board)
      (hcauses : operation.Causes Disturbance.KeepsEnabled)
      (hmisleads : Misleads index channel board operation)
      (hstray : IsStray index channel (board.perform operation).2) :
      WentAstray start index channel (board.perform operation).2
  | keep {before after : Board} (hbefore : WentAstray start index channel before)
      (hhappens : Happens before after) (hstray : IsStray index channel after) :
      WentAstray start index channel after

/-- A stop that succeeds masks the event, unless it finds the channel stopping. Then
it leaves the channel alone. -/
def StopsMasked (index channel : Nat) (controller : Controller) (board : Board) : Prop :=
  ∀ name world answer after, board.handle? name = some ⟨name, index, channel⟩ →
    world.Causes Disturbance.KeepsEnabled →
    board.perform (.channel name (.stop world)) = (.ok answer, after) →
      ∃ later, after.controllers[index]? = some later ∧ later.wasStarted channel = false ∧
        (Controller.hasChannel (later.read .interruptEnable) channel = true →
          (later.channelState channel).isStopping = true ∧
            later.lastCommand? channel = controller.lastCommand? channel ∧
            Controller.hasChannel (controller.read .interruptEnable) channel = true)

/-- The event of a channel that is released is masked, unless it was astray
already. -/
def ReleasesMasked (start : Board) (index channel : Nat) (board : Board) : Prop :=
  ∀ name answer after, board.handle? name = some ⟨name, index, channel⟩ →
    board.perform (.controller index (.release name)) = (.ok answer, after) →
      ∃ later, after.controllers[index]? = some later ∧ later.request? channel = none ∧
        (Controller.hasChannel (later.read .interruptEnable) channel = true →
          WentAstray start index channel board)

/-! ## Stray events -/

theorem isStray_iff (hchannel : channel < 32)
    (hfound : board.controllers[index]? = some controller) :
    board.IsStray index channel ↔ (controller.standings channel).IsStray := by
  have henabled := Controller.enabled_standings hchannel controller
  refine ⟨fun ⟨other, hother, hset, hstopped⟩ => ?_, fun ⟨hset, hstopped⟩ => ?_⟩
  · obtain rfl := Option.some.inj (hfound.symm.trans hother)
    exact ⟨henabled.trans hset, hstopped⟩
  · exact ⟨controller, hfound, henabled.symm.trans hset, hstopped⟩

/-- Only an operation that misleads makes an event a stray one. -/
theorem Happens.isStray (hhappens : Happens before after) (hbefore : before.Reachable)
    (hheard : ∀ controller ∈ before.controllers[index]?, ∀ channel,
      (controller.standings channel).Heard)
    (hchannel : channel < 32) (hstray : after.IsStray index channel) :
    before.IsStray index channel ∨ ∃ operation, operation.Causes Disturbance.KeepsEnabled ∧
      Misleads index channel before operation ∧ after = (before.perform operation).2 := by
  obtain ⟨controller, hfound, -⟩ := id hstray
  obtain ⟨earlier, hearlier, hmoves⟩ := hhappens.stands hbefore index controller hfound
  rw [isStray_iff hchannel hfound] at hstray
  rw [isStray_iff hchannel hearlier]
  exact (hmoves channel).isStray (hheard earlier hearlier channel) hstray

/-- The controller is not initialized, and has no event enabled. -/
def Quiet (index : Nat) (board : Board) : Prop :=
  ∀ controller ∈ board.controllers[index]?,
    controller.setup = none ∧ controller.read .interruptEnable = 0

instance : Decidable (board.Quiet index) :=
  inferInstanceAs (Decidable (∀ controller ∈ board.controllers[index]?,
    controller.setup = none ∧ controller.read .interruptEnable = 0))

theorem Quiet.enabled (hquiet : board.Quiet index) :
    ∀ controller ∈ board.controllers[index]?, ∀ channel,
      (controller.standings channel).enabled = false := by
  intro controller hfound channel
  change bitOf (controller.read .interruptEnable) channel = false
  rw [(hquiet controller hfound).2]
  simp [bitOf]

/-- An event that is a stray one was led astray. -/
theorem Runs.wentAstray (hruns : Runs start board) (hstart : start.Reachable)
    (hquiet : start.Quiet index) (hchannel : channel < 32) (hstray : board.IsStray index channel) :
    WentAstray start index channel board := by
  induction hruns with
  | refl =>
      obtain ⟨controller, hfound, -⟩ := id hstray
      have henabled := ((isStray_iff hchannel hfound).mp hstray).1
      rw [hquiet.enabled controller hfound channel] at henabled
      cases henabled
  | tail hearlier hhappens ih =>
      have hheard := Runs.heard hearlier hstart fun controller hfound => (hquiet controller hfound).1
      -- the event was astray before, or the last operation led it astray
      rcases hhappens.isStray (Runs.reachable hearlier hstart) hheard hchannel hstray with
        hbefore | ⟨operation, hcauses, hmisleads, rfl⟩
      · exact .keep (ih hbefore) hhappens hstray
      · exact .mislead hearlier hcauses hmisleads hstray

/-- An event that is enabled belongs to a channel that was started, and neither
killed nor started again since. -/
theorem Runs.started (hruns : Runs start board) (hstart : start.Reachable)
    (hquiet : start.Quiet index) :
    ∀ controller ∈ board.controllers[index]?, ∀ channel,
      (controller.standings channel).Started := by
  refine hruns.keep hstart (fun hmoves => hmoves.started) fun controller hfound channel hset => ?_
  rw [hquiet.enabled controller hfound channel] at hset
  cases hset

/-! ## Stops and releases -/

theorem Reachable.stopsMasked (hboard : board.Reachable)
    (hfound : board.controllers[index]? = some controller) (hchannel : channel < 32) :
    board.StopsMasked index channel controller := by
  intro name world answer after hhandle hworld hstop
  have hset := Controller.enabled_standings hchannel
  rw [perform_stop hhandle hfound world] at hstop
  dsimp only at hstop
  cases hperform : (Controller.stop (world.delayed controller.clock) channel).perform controller with
  | mk result later =>
      rw [hperform] at hstop
      cases result with
      | error error => cases hstop
      | ok value =>
          cases hstop
          have hstops := Controller.stops_of_stop (hworld.delayed controller.clock)
            (hboard.managed_le controller (List.mem_of_getElem? hfound)) hchannel hperform
          refine ⟨later, found_withDriver hfound _, hstops.stopped, fun henabled => ?_⟩
          obtain ⟨hstopping, hcommand, hkept⟩ := hstops.spared ((hset later).trans henabled)
          exact ⟨hstopping, hcommand, (hset controller).symm.trans hkept⟩

theorem Runs.releasesMasked (hruns : Runs start board) (hstart : start.Reachable)
    (hquiet : start.Quiet index) (hfound : board.controllers[index]? = some controller)
    (hchannel : channel < 32) : ReleasesMasked start index channel board := by
  intro name answer after hhandle hrelease
  cases hrunning : controller.isRunning channel with
  | true =>
      have hbusy := perform_release_of_running hhandle hfound hrunning
      cases hbusy.symm.trans hrelease
  | false =>
      have hfree := perform_release hhandle hfound hrunning
      cases hfree.symm.trans hrelease
      have hreleased := congrFun
        (Driver.standings_released channel ⟨controller, board.references⟩) channel
      rw [Function.update_self] at hreleased
      refine ⟨_, found_withDriver hfound _, congrArg Standing.request hreleased, fun hset => ?_⟩
      -- a release leaves the bit alone, so it was set while the channel did not run
      refine hruns.wentAstray hstart hquiet hchannel ⟨controller, hfound, ?_, hrunning⟩
      rw [← Controller.enabled_standings hchannel] at hset ⊢
      exact (congrArg Standing.enabled hreleased).symm.trans hset

/-- The event of a channel is enabled only if the channel was started last, and only
while the channel is held and runs, unless it went astray. Stopping or releasing the
channel masks it. -/
theorem masked_unless_running (hstart : start.Reachable) (hquiet : start.Quiet index)
    (hruns : Runs start board) (hfound : board.controllers[index]? = some controller)
    (hchannel : channel < 32) :
    (Controller.hasChannel (controller.read .interruptEnable) channel = true →
      (∃ address nonsecure,
        controller.lastCommand? channel = some (.go channel address nonsecure)) ∧
      ((∃ request, controller.request? channel = some request) ∧
        controller.isRunning channel = true ∨ WentAstray start index channel board)) ∧
      board.StopsMasked index channel controller ∧ ReleasesMasked start index channel board := by
  have hboard := hruns.reachable hstart
  refine ⟨fun henabled => ⟨?_, ?_⟩, hboard.stopsMasked hfound hchannel,
    hruns.releasesMasked hstart hquiet hfound hchannel⟩
  · have hstarted := hruns.started hstart hquiet controller hfound channel
    rw [← Controller.enabled_standings hchannel] at henabled
    obtain ⟨started, address, nonsecure, hcommand⟩ := hstarted henabled
    obtain rfl := Controller.channel_of_lastCommand? hcommand
    exact ⟨address, nonsecure, hcommand⟩
  · cases hrunning : controller.isRunning channel with
    | true =>
        have hheld : (controller.request? channel).any (·.running) = true :=
          (Bool.and_eq_true_iff.mp hrunning).1
        exact .inl ⟨Option.isSome_iff_exists.mp (Option.isSome_of_any hheld), rfl⟩
    | false =>
        refine .inr (hruns.wentAstray hstart hquiet hchannel ⟨controller, hfound, ?_, hrunning⟩)
        exact henabled

/-- The ring is submitted, and its channel executes the program. -/
def executingOperations : List Operation :=
  ringOperations ++ [.controller 0 (.change [(.status 0, 1)])]

theorem causes_executing :
    ∀ operation ∈ executingOperations, operation.Causes Disturbance.KeepsEnabled := by
  refine List.forall_mem_append.mpr ⟨causes_ring, List.forall_mem_singleton.mpr ?_⟩
  exact List.forall_mem_singleton.mpr fun value hchange => nomatch hchange

theorem perform_eq_done {operation : Operation}
    (hdone : ((board.perform operation).1 matches .ok .done) = true) :
    board.perform operation = (.ok .done, (board.perform operation).2) := by
  refine Prod.ext ?_ rfl
  split at hdone
  next hresult => exact hresult
  next => cases hdone

/-- The channel is masked when it is stopped. -/
theorem masked_unless_running_ring :
    ∃ controller ∈ (smallBoard.performAll executingOperations).controllers,
      (∃ address nonsecure, controller.lastCommand? 0 = some (.go 0 address nonsecure)) ∧
        ∃ later ∈ ((smallBoard.performAll executingOperations).perform
            (.channel 7 (.stop fun _ => []))).2.controllers,
          Controller.hasChannel (later.read .interruptEnable) 0 = false := by
  have hstates : (smallBoard.performAll executingOperations).controllers.map (fun controller =>
      Controller.hasChannel (controller.read .interruptEnable) 0) = [true] := by
    decide +kernel
  have hstopped : ((smallBoard.performAll executingOperations).perform
      (.channel 7 (.stop fun _ => []))).2.controllers.map (·.channelState 0) = [.executing] := by
    decide +kernel
  have hhandle : (smallBoard.performAll executingOperations).handle? 7 = some ⟨7, 0, 0⟩ := by
    decide +kernel
  obtain ⟨controller, rest, hcontrollers, henabled, -⟩ := List.map_eq_cons_iff.mp hstates
  have hfound : (smallBoard.performAll executingOperations).controllers[0]? = some controller := by
    rw [hcontrollers]
    rfl
  obtain ⟨hstarted, hstops, -⟩ :=
    masked_unless_running (.new (show new? [1] 0 = some smallBoard from rfl)) (by decide)
      (runs_performAll causes_executing smallBoard) hfound (show 0 < 32 by decide)
  refine ⟨controller, List.mem_of_getElem? hfound, (hstarted henabled).1, ?_⟩
  obtain ⟨later, hlater, -, hspared⟩ := hstops 7 (fun _ => []) .done _ hhandle
    (fun _ _ hmem => absurd hmem List.not_mem_nil) (perform_eq_done (by decide +kernel))
  refine ⟨later, List.mem_of_getElem? hlater, Bool.eq_false_iff.mpr fun hset => ?_⟩
  have hstate : later.channelState 0 = .executing :=
    List.mem_singleton.mp (hstopped ▸ List.mem_map_of_mem (List.mem_of_getElem? hlater))
  have hstopping := (hspared hset).1
  rw [hstate] at hstopping
  cases hstopping

/-- A stop may find a channel stopped that was just started. It answers as if the
channel was killed, and the channel can be released, while its event stays
enabled. -/
theorem stray_of_stop :
    smallBoard.Reachable ∧ smallBoard.Quiet 0 ∧
      Runs smallBoard (smallBoard.performAll ringOperations) ∧
      ∃ stopped released,
        (smallBoard.performAll ringOperations).perform (.channel 7 (.stop fun _ => [])) =
          (.ok .done, stopped) ∧
        stopped.IsStray 0 0 ∧
        stopped.perform (.controller 0 (.release 7)) = (.ok .done, released) ∧
        released.IsStray 0 0 := by
  refine ⟨.new (show new? [1] 0 = some smallBoard from rfl), by decide,
    runs_performAll causes_ring smallBoard, _, _, perform_eq_done ?_, ?_, perform_eq_done ?_, ?_⟩
  all_goals decide +kernel

/-- The channel has faulted, and it is killed once more while it is started. -/
example : IsStray 0 0
    ((smallBoard.performAll ringOperations).performAll
      [.controller 0 (.change [(.status 0, 15), (.channelFaultStatus, 1)]),
        .channel 7 (.start fun
          | 1 => [.interrupt]
          | 2 => [.change (.status 0) 0]
          | _ => [])]) := by
  decide +kernel

end CyclicDma.Board
