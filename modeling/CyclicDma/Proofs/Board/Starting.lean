import CyclicDma.Proofs.Board.Masking
import CyclicDma.Proofs.Controller.Starting
import CyclicDma.Proofs.Driver.Guarding

/-! # Channels that were started are not taken back

A start that launches its channel leaves it running with its event enabled, unless the
interrupt handler killed the channel while the driver waited. From then on the channel
is guarded: it is taken back only if the last command killed it, until an operation
leaves it unguarded.
-/

namespace CyclicDma

/-- The operation may launch its channel. -/
inductive ChannelOperation.Launches (world : World) : ChannelOperation → Prop
  | start : Launches world (.start world)
  | submit (order) : Launches world (.submit order world)

/-- The order that is submitted, if one is. -/
def ChannelOperation.order? : ChannelOperation → Option Order
  | submit order _ => some order
  | _ => none

namespace Board

open Driver (Demand)

variable {before after start board : Board} {controller : Controller} {handle : Handle}
variable {operation : Operation} {request : ChannelOperation} {index channel name : Nat}
variable {world : World}

/-! ## Leaving a channel unguarded -/

/-- The operation leaves a channel unguarded although the last command started it: a stop
succeeds because it finds the channel stopping, a start or a submission succeeds although
the interrupt handler killed the channel before the launch, or a start finds the channel
about to fault and fails once it stopped. -/
inductive Unguards (index channel : Nat) (board : Board) : Operation → Prop
  | spare {name : Nat} {world : World} {answer : Answer} {after : Board} {controller : Controller}
      (hhandle : board.handle? name = some ⟨name, index, channel⟩)
      (hstop : board.perform (.channel name (.stop world)) = (.ok answer, after))
      (hfound : after.controllers[index]? = some controller)
      (hstopping : (controller.channelState channel).isStopping = true)
      (hcommand : controller.lastCommand? channel ≠ some .kill) :
      Unguards index channel board (.channel name (.stop world))
  | overtake {name : Nat} {request : ChannelOperation} {world : World} {answer : Answer}
      {after : Board} {controller : Controller} (hrequest : request.Launches world)
      (hhandle : board.handle? name = some ⟨name, index, channel⟩)
      (hperform : board.perform (.channel name request) = (.ok answer, after))
      (hfound : after.controllers[index]? = some controller)
      (haborted : (controller.notificationsOf channel).aborted = true)
      (hcommand : controller.lastCommand? channel ≠ some .kill) :
      Unguards index channel board (.channel name request)
  | recover {name : Nat} {world : World} {refusal : Refusal} {after : Board}
      {controller later : Controller}
      (hhandle : board.handle? name = some ⟨name, index, channel⟩)
      (hstart : board.perform (.channel name (.start world)) = (.error refusal, after))
      (hbefore : board.controllers[index]? = some controller)
      (hfaulted : controller.channelState channel = .faultCompleting)
      (hfound : after.controllers[index]? = some later)
      (hcommand : later.lastCommand? channel ≠ some .kill) :
      Unguards index channel board (.channel name (.start world))

/-- Something happens to a board that does not leave the channel unguarded. Nobody but the
drivers decides which events are enabled. -/
inductive HappensGuarded (index channel : Nat) : Board → Board → Prop
  | perform {operation : Operation} {board : Board}
      (hcauses : operation.Causes Disturbance.KeepsEnabled)
      (hspared : ¬ board.Unguards index channel operation) :
      HappensGuarded index channel board (board.perform operation).2
  | deliver (other depth board) :
      HappensGuarded index channel board
        ((onDriver other fun driver => ((), driver.dispatchNested depth)).run.run board).2

/-- Any number of things happen without leaving the channel unguarded. -/
abbrev RunsGuarded (index channel : Nat) : Board → Board → Prop :=
  Relation.ReflTransGen (HappensGuarded index channel)

theorem HappensGuarded.happens (hhappens : HappensGuarded index channel before after) :
    Happens before after := by
  cases hhappens with
  | perform hcauses => exact .perform hcauses before
  | deliver other depth => exact .deliver other depth before

/-! ## Operations that do not drive the channel -/

/-- The channel is guarded at its controller. -/
def Guarded (index channel : Nat) (board : Board) : Prop :=
  ∃ controller, board.controllers[index]? = some controller ∧ controller.Guarded channel

/-- Work that leaves the channel guarded at its own controller leaves it guarded, whatever
is done to the others. -/
theorem Guarded.works {hold : Board → Board → Prop} (hguarded : before.Guarded index channel)
    (hbefore : before.Reachable)
    (hworks : Works (fun other before after => other = index → Driver.Guards channel before after)
      hold before after) : after.Guarded index channel := by
  obtain ⟨controller, hfound, hstill⟩ := hguarded
  have hbound := hbefore.managed_le controller (List.mem_of_getElem? hfound)
  obtain ⟨last, hlast, hguards⟩ := Works.related hworks (fun earlier later hdriver => hdriver rfl)
    hfound
  exact ⟨last, hlast, Controller.Guards.guarded hguards hbound hstill⟩

/-- Who drives a channel holds it. -/
theorem exists_of_drives {demand : Demand} (hasked : operation.Asks board index demand)
    (hdrives : demand.Drives channel) :
    ∃ name world, board.handle? name = some ⟨name, index, channel⟩ ∧
      (operation = .channel name (.stop world) ∨
        ∃ request : ChannelOperation, request.Launches world ∧
          operation = .channel name request) := by
  have hconcerns : demand.Concerns channel := by
    cases hdrives <;> exact rfl
  obtain ⟨name, handle, request, rfl, hhandle, rfl, rfl, hasks⟩ :=
    Operation.exists_of_concerns hasked hconcerns
  obtain ⟨-, rfl⟩ := handle?_eq_some hhandle
  cases request with
  | submit order world => exact ⟨handle.name, world, hhandle, .inr ⟨_, .submit order, rfl⟩⟩
  | start world => exact ⟨handle.name, world, hhandle, .inr ⟨_, .start, rfl⟩⟩
  | stop world => exact ⟨handle.name, world, hhandle, .inl rfl⟩
  | register =>
      rw [show demand = _ from hasks] at hdrives
      cases hdrives
  | unregister =>
      obtain ⟨_, rfl⟩ := hasks
      cases hdrives
  | state | inspect | nextPeriod | abandon => exact hasks.elim

/-! ## Operations that drive the channel -/

section

variable (hboard : board.Reachable) (hhandle : board.handle? name = some ⟨name, index, channel⟩)
variable (hworld : world.Causes Disturbance.KeepsEnabled)

include hboard hhandle hworld

/-- A stop leaves the channel guarded, unless it spares it. -/
theorem guarded_stop (hguarded : board.Guarded index channel)
    (hspared : ¬ board.Unguards index channel (.channel name (.stop world))) :
    (board.perform (.channel name (.stop world))).2.Guarded index channel := by
  obtain ⟨controller, hfound, hstill⟩ := hguarded
  have hbound := hboard.managed_le controller (List.mem_of_getElem? hfound)
  have hchannel := hboard.channel_lt hhandle
  cases hperform : board.perform (.channel name (.stop world)) with
  | mk outcome after =>
      have hstop := hperform
      rw [perform_channel hhandle] at hstop
      obtain ⟨result, later, hdriven, hlater, rfl⟩ :=
        drive_cases hfound (fun world => Controller.stop world channel) hstop
      refine ⟨later, hlater, ?_⟩
      rcases Controller.guarded_stop (hworld.delayed _) hbound hchannel hstill hdriven with
        hguarded | ⟨rfl, hstopping⟩
      · exact hguarded
      · by_contra hlost
        exact hspared (.spare hhandle hperform hlater hstopping fun hkill => hlost (.inr hkill))

/-- A start leaves the channel guarded, unless it is overtaken, or fails to recover it. -/
theorem guarded_start (hguarded : board.Guarded index channel)
    (hspared : ¬ board.Unguards index channel (.channel name (.start world))) :
    (board.perform (.channel name (.start world))).2.Guarded index channel := by
  obtain ⟨controller, hfound, hstill⟩ := hguarded
  have hbound := hboard.managed_le controller (List.mem_of_getElem? hfound)
  have hchannel := hboard.channel_lt hhandle
  cases hperform : board.perform (.channel name (.start world)) with
  | mk outcome after =>
      have hstart := hperform
      rw [perform_channel hhandle] at hstart
      obtain ⟨result, later, hdriven, hlater, rfl⟩ :=
        drive_cases hfound (fun world => Controller.start world channel) hstart
      refine ⟨later, hlater, ?_⟩
      rcases Controller.guarded_start (hworld.delayed _) hbound hchannel hstill hdriven with
        hguarded | ⟨rfl, haborted⟩ | ⟨hfaulted, error, rfl⟩
      · exact hguarded
      · by_contra hlost
        exact hspared (.overtake .start hhandle hperform hlater haborted fun hkill =>
          hlost (.inr hkill))
      · by_contra hlost
        exact hspared (.recover hhandle hperform hfound hfaulted hlater fun hkill =>
          hlost (.inr hkill))

/-- A submission leaves the channel guarded, unless it is overtaken. -/
theorem guarded_submit {order : Order} (hguarded : board.Guarded index channel)
    (hspared : ¬ board.Unguards index channel (.channel name (.submit order world))) :
    (board.perform (.channel name (.submit order world))).2.Guarded index channel := by
  obtain ⟨controller, hfound, hstill⟩ := hguarded
  have hbound := hboard.managed_le controller (List.mem_of_getElem? hfound)
  have hchannel := hboard.channel_lt hhandle
  cases hperform : board.perform (.channel name (.submit order world)) with
  | mk outcome after =>
      have hsubmit := hperform
      rw [perform_channel hhandle] at hsubmit
      obtain ⟨result, later, hdriven, hlater, rfl⟩ :=
        drive_cases hfound (fun world => Controller.submit world channel order) hsubmit
      refine ⟨later, hlater, ?_⟩
      rcases Controller.guarded_submit (hworld.delayed _) hbound hchannel hstill hdriven with
        hguarded | ⟨rfl, haborted⟩
      · exact hguarded
      · by_contra hlost
        exact hspared (.overtake (.submit order) hhandle hperform hlater haborted fun hkill =>
          hlost (.inr hkill))

end

/-! ## Whatever happens -/

theorem guarded_perform (hboard : board.Reachable) (hguarded : board.Guarded index channel)
    (hcauses : operation.Causes Disturbance.KeepsEnabled)
    (hspared : ¬ board.Unguards index channel operation) :
    (board.perform operation).2.Guarded index channel := by
  by_cases hdrives : ∃ demand : Demand, operation.Asks board index demand ∧ demand.Drives channel
  · obtain ⟨demand, hasks, hdriven⟩ := hdrives
    obtain ⟨name, world, hhandle, hoperation⟩ := exists_of_drives hasks hdriven
    rcases hoperation with rfl | ⟨request, hrequest, rfl⟩
    · exact guarded_stop hboard hhandle hcauses hguarded hspared
    · cases hrequest with
      | start => exact guarded_start hboard hhandle hcauses hguarded hspared
      | submit order => exact guarded_submit hboard hhandle hcauses hguarded hspared
  · have hworks := serves_perform operation board
    refine hguarded.works hboard (Works.mono ?_ (fun _ _ => id) hworks)
    rintro other earlier later hserves rfl
    exact hserves.follow fun demand hasks driver =>
      Demand.guards (fun hdriven => hdrives ⟨demand, hasks, hdriven⟩) driver

theorem HappensGuarded.guarded (hhappens : HappensGuarded index channel before after)
    (hbefore : before.Reachable) (hguarded : before.Guarded index channel) :
    after.Guarded index channel := by
  cases hhappens with
  | perform hcauses hspared => exact guarded_perform hbefore hguarded hcauses hspared
  | deliver other depth =>
      have hdelivers : Follows (Works (fun other before after => other = index →
          Driver.Guards channel before after) fun _ _ => True)
          (onDriver other fun driver => ((), driver.dispatchNested depth)) :=
        works_onDriver other fun driver _ => Driver.delivering_guards.dispatchNested depth driver
      exact hguarded.works hbefore (hdelivers before)

/-- A guarded channel stays guarded until an operation leaves it unguarded. -/
theorem RunsGuarded.guarded (hruns : RunsGuarded index channel start board)
    (hstart : start.Reachable) (hguarded : start.Guarded index channel) :
    board.Guarded index channel := by
  have hkept : board.Reachable ∧ board.Guarded index channel := by
    induction hruns with
    | refl => exact ⟨hstart, hguarded⟩
    | tail _ hhappens ih => exact ⟨hhappens.happens.reachable ih.1, hhappens.guarded ih.1 ih.2⟩
  exact hkept.2

/-- A channel that runs is not taken back. -/
theorem isRunning_of_released {answer : Answer} (hhandle : board.handle? name = some handle)
    (hfound : board.controllers[handle.controller]? = some controller)
    (hreleased : board.perform (.controller index (.release name)) = (.ok answer, after)) :
    controller.isRunning handle.channel = false := by
  by_cases hforeign : handle.controller = index
  · subst hforeign
    refine Bool.eq_false_iff.mpr fun hrunning => ?_
    rw [perform_release_of_running hhandle hfound hrunning] at hreleased
    cases hreleased
  · rw [perform_release_of_ne hhandle hforeign] at hreleased
    cases hreleased

/-- A guarded channel is taken back only if the last command killed it. -/
theorem Guarded.of_released {answer : Answer} {owner : Nat} (hguarded : board.Guarded index channel)
    (hhandle : board.handle? name = some ⟨name, index, channel⟩)
    (hreleased : board.perform (.controller owner (.release name)) = (.ok answer, after)) :
    ∃ controller, board.controllers[index]? = some controller ∧
      controller.lastCommand? channel = some .kill := by
  obtain ⟨controller, hfound, hstill⟩ := hguarded
  exact ⟨controller, hfound, hstill.of_stopped (isRunning_of_released hhandle hfound hreleased)⟩

/-! ## Starting -/

theorem starts_of_perform {answer : Answer} (hrequest : request.Launches world)
    (hhandle : board.handle? name = some handle)
    (hfound : board.controllers[handle.controller]? = some controller)
    (hmanaged : controller.managed ≤ 32) (hchannel : handle.channel < 32)
    (hworld : world.Causes Disturbance.KeepsEnabled)
    (hperform : board.perform (.channel name request) = (.ok answer, after)) :
    ∃ later, after.controllers[handle.controller]? = some later ∧
      Controller.Starts (world.delayed controller.clock) handle.channel request.order? controller
        later := by
  have hkeeps := hworld.delayed controller.clock
  rw [perform_channel hhandle] at hperform
  cases hrequest with
  | start =>
      obtain ⟨result, later, hdriven, hlater, hanswer⟩ :=
        drive_cases hfound (fun world => Controller.start world handle.channel) hperform
      cases result with
      | error error => cases hanswer
      | ok value =>
          exact ⟨later, hlater, Controller.starts_of_start hkeeps hmanaged hchannel hdriven⟩
  | submit order =>
      obtain ⟨result, later, hdriven, hlater, hanswer⟩ :=
        drive_cases hfound (fun world => Controller.submit world handle.channel order) hperform
      cases result with
      | error error => cases hanswer
      | ok value =>
          exact ⟨later, hlater, Controller.starts_of_submit hkeeps hmanaged hchannel hdriven⟩

/-- When a start or a submission succeeds and has launched the channel, the launch is the
last command for the channel. The channel then runs with its event enabled, unless it was
overtaken: during a wait before the launch the world let an interrupt come, and handling it
killed the channel. From then on the channel is taken back only if the last command killed
it, as long as no operation leaves it unguarded. -/
theorem started_guarded {started : Board} {answer : Answer} (hboard : board.Reachable)
    (hrequest : request.Launches world)
    (hhandle : board.handle? name = some ⟨name, index, channel⟩)
    (hworld : world.Causes Disturbance.KeepsEnabled)
    (hperform : board.perform (.channel name request) = (.ok answer, started)) :
    ∃ controller later, board.controllers[index]? = some controller ∧
      started.controllers[index]? = some later ∧
      (later.launches channel = controller.launches channel ∨
        later.launches channel = controller.launches channel + 1 ∧
        (∃ address nonsecure, later.lastCommand? channel = some (.go channel address nonsecure)) ∧
        ((later.notificationsOf channel).aborted = true ∧
            (∃ called, Controller.Prepares channel controller request.order? called ∧
              Controller.Overtaken (world.delayed controller.clock) channel called later) ∨
          later.isRunning channel = true ∧
          Controller.hasChannel (later.read .interruptEnable) channel = true ∧
          ∀ final client owner answer released, RunsGuarded index channel started final →
            final.handle? client = some ⟨client, index, channel⟩ →
            final.perform (.controller owner (.release client)) = (.ok answer, released) →
            ∃ last, final.controllers[index]? = some last ∧
              last.lastCommand? channel = some .kill)) := by
  obtain ⟨controller, _, _, hfound, -⟩ := hboard.usable (handle?_eq_some hhandle).1
  have hbound := hboard.managed_le controller (List.mem_of_getElem? hfound)
  have hstarted : started.Reachable := by
    have hafter := hboard.perform (.channel name request)
    rwa [hperform] at hafter
  obtain ⟨later, hlater, hstarts⟩ := starts_of_perform hrequest hhandle hfound hbound
    (hboard.channel_lt hhandle) hworld hperform
  refine ⟨controller, later, hfound, hlater, ?_⟩
  rcases hstarts.launched with hnone | hlaunched
  · exact .inl hnone
  · refine .inr ⟨hlaunched.launches, hlaunched.command, ?_⟩
    cases haborted : (later.notificationsOf channel).aborted with
    | true => exact .inl ⟨rfl, hstarts.overtaken haborted⟩
    | false =>
        have hrunning := hlaunched.running haborted
        have hguarded : started.Guarded index channel := ⟨later, hlater, .inl hrunning⟩
        refine .inr ⟨hrunning, hlaunched.enabled haborted, ?_⟩
        intro final client owner answer released hruns hholder hreleased
        exact (hruns.guarded hstarted hguarded).of_released hholder hreleased

/-- The ring faults, and the interrupt handler kills it. -/
def killingOperations : List Operation :=
  [.controller 0 (.change [(.channelFaultStatus, 1)]), .controller 0 .interrupt]

/-- The ring is killed without being left unguarded. -/
theorem runsGuarded_killing (board : Board) :
    RunsGuarded 0 0 board (board.performAll killingOperations) := by
  have hfault : Operation.Causes Disturbance.KeepsEnabled
      (.controller 0 (.change [(.channelFaultStatus, 1)])) :=
    List.forall_mem_singleton.mpr fun value hchange => nomatch hchange
  have hinterrupt : Operation.Causes Disturbance.KeepsEnabled (.controller 0 .interrupt) := trivial
  refine .head (.perform hfault ?_) (.head (.perform hinterrupt ?_) .refl)
  all_goals exact fun hunguards => nomatch hunguards

/-- The ring runs, and it can be taken back once it was killed. -/
theorem started_guarded_ring :
    ∃ controller last, (smallBoard.performAll ringOperations).controllers[0]? = some controller ∧
      ((smallBoard.performAll ringOperations).performAll killingOperations).controllers[0]? =
        some last ∧
      controller.isRunning 0 = true ∧
      Controller.hasChannel (controller.read .interruptEnable) 0 = true ∧
      last.lastCommand? 0 = some .kill := by
  have hready : (smallBoard.performAll (ringOperations.take 2)).Reachable :=
    (Reachable.new (show new? [1] 0 = some smallBoard from rfl)).performAll _
  have hhandle : (smallBoard.performAll (ringOperations.take 2)).handle? 7 = some ⟨7, 0, 0⟩ := by
    decide +kernel
  have hheld : ((smallBoard.performAll ringOperations).performAll killingOperations).handle? 7 =
      some ⟨7, 0, 0⟩ := by
    decide +kernel
  have hbefore : (smallBoard.performAll (ringOperations.take 2)).controllers.map
      (fun controller => (controller.launches 0, controller.kills 0)) = [(0, 0)] := by
    decide +kernel
  have hafter : (smallBoard.performAll ringOperations).controllers.map
      (fun controller => (controller.launches 0, controller.kills 0)) = [(1, 0)] := by
    decide +kernel
  have hsubmit : (smallBoard.performAll (ringOperations.take 2)).perform
      (.channel 7 (.submit ringOrder fun _ => [])) =
        (.ok .done, smallBoard.performAll ringOperations) :=
    perform_eq_done (by decide +kernel)
  have hrelease : ((smallBoard.performAll ringOperations).performAll killingOperations).perform
      (.controller 0 (.release 7)) = (.ok .done, _) :=
    perform_eq_done (by decide +kernel)
  obtain ⟨controller, later, hfound, hlater, hstarted⟩ := started_guarded hready (.submit ringOrder)
    hhandle (fun _ _ hmem => absurd hmem List.not_mem_nil) hsubmit
  have hcounted : (controller.launches 0, controller.kills 0) ∈ [(0, 0)] := by
    rw [← hbefore]
    exact List.mem_map_of_mem (List.mem_of_getElem? hfound)
  have hrecounted : (later.launches 0, later.kills 0) ∈ [(1, 0)] := by
    rw [← hafter]
    exact List.mem_map_of_mem (List.mem_of_getElem? hlater)
  obtain ⟨hlaunches, hkills⟩ := Prod.mk.inj (List.mem_singleton.mp hcounted)
  obtain ⟨hlaunched, hunkilled⟩ := Prod.mk.inj (List.mem_singleton.mp hrecounted)
  rcases hstarted with hsame | ⟨-, -, ⟨-, called, hprepares, hovertaken⟩ |
    ⟨hrunning, henabled, hguarded⟩⟩
  · rw [hlaunches, hlaunched] at hsame
    cases hsame
  · have hkilled := (Controller.Steps.kills_le hprepares.steps 0).trans_lt hovertaken.kills_lt
    rw [hkills, hunkilled] at hkilled
    cases hkilled
  · obtain ⟨last, hlast, hkilled⟩ := hguarded _ 7 0 _ _ (runsGuarded_killing _) hheld hrelease
    exact ⟨later, last, hlater, hlast, hrunning, henabled, hkilled⟩

/-- The ring is about to be submitted, and the controller is busy. -/
def busyOperations : List Operation :=
  ringOperations.take 2 ++ [.controller 0 (.change [(.debugStatus, 1)])]

/-- While the driver waits for the controller, the channel faults and an interrupt is
handled. -/
def overtakingWorld : World
  | 1 => [.change .channelFaultStatus 1, .change .debugStatus 0, .interrupt]
  | _ => []

theorem causes_overtaking : overtakingWorld.Causes Disturbance.KeepsEnabled := by
  intro time disturbance hmem
  unfold overtakingWorld at hmem
  split at hmem
  · simp only [List.mem_cons, List.not_mem_nil, or_false] at hmem
    rcases hmem with rfl | rfl | rfl <;> exact nofun
  · exact absurd hmem List.not_mem_nil

/-- A submission that is overtaken succeeds, and the channel does not run and is not heard
although the launch is the last command. A channel that was just launched may be found
stopped, and a stop then leaves it alone. Both are taken back without being killed. -/
theorem started_not_running :
    (∃ started released,
      (smallBoard.performAll busyOperations).controllers.map (·.launches 0) = [0] ∧
      overtakingWorld.Causes Disturbance.KeepsEnabled ∧
      (smallBoard.performAll busyOperations).perform
          (.channel 7 (.submit ringOrder overtakingWorld)) = (.ok .done, started) ∧
      started.controllers.map (fun controller => (controller.launches 0, controller.lastCommand? 0,
          controller.isRunning 0, Controller.hasChannel (controller.read .interruptEnable) 0)) =
        [(1, some (.go 0 0x1000 false), false, false)] ∧
      started.perform (.controller 0 (.release 7)) = (.ok .done, released)) ∧
    ∃ stopped released,
      (smallBoard.performAll ringOperations).perform (.channel 7 (.stop fun _ => [])) =
        (.ok .done, stopped) ∧
      stopped.controllers.map (·.lastCommand? 0) = [some (.go 0 0x1000 false)] ∧
      stopped.perform (.controller 0 (.release 7)) = (.ok .done, released) := by
  refine ⟨⟨_, _, ?_, causes_overtaking, perform_eq_done ?_, ?_, perform_eq_done ?_⟩,
    _, _, perform_eq_done ?_, ?_, perform_eq_done ?_⟩
  all_goals decide +kernel

end Board

end CyclicDma
