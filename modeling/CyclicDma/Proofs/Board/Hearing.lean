import CyclicDma.Proofs.Board.Holding
import CyclicDma.Proofs.Board.Reachable
import CyclicDma.Proofs.Driver.Hearing

/-! # Hearing running channels

As long as nobody but the drivers decides which events are enabled, a running
channel can be heard. That holds whatever the other registers show, and whenever
they change, even if interrupts are handled while a driver waits.
-/

namespace CyclicDma

namespace Driver

variable {before middle after : Driver} {astray : Nat → Prop}

/-- While the driver manages no more channels than there are events, it goes on to
manage them, and they make moves. -/
def StandsWithin (astray : Nat → Prop) (before after : Driver) : Prop :=
  before.controller.managed ≤ 32 →
    after.controller.managed = before.controller.managed ∧ Stands astray before after

instance : Std.Refl (StandsWithin astray) :=
  ⟨fun _ _ => ⟨rfl, .of_eq rfl⟩⟩

theorem StandsWithin.of_eq (hmanaged : after.controller.managed = before.controller.managed)
    (hsame : after.controller.standings = before.controller.standings) :
    StandsWithin astray before after :=
  fun _ => ⟨hmanaged, .of_eq hsame⟩

/-- What the holder of a channel does to it. -/
theorem StandsWithin.of_drives {channel : Nat} {led : Prop}
    (hmanaged : after.controller.managed = before.controller.managed)
    (hdrives : before.controller.managed ≤ 32 →
      Controller.Drives channel led before.controller after.controller)
    (hled : led → astray channel) : StandsWithin astray before after := by
  refine fun hbound => ⟨hmanaged, fun other => ?_⟩
  by_cases hsame : other = channel
  · subst hsame
    exact (hdrives hbound).driven.mono hled
  · exact ((hdrives hbound).others other hsame).mono False.elim

end Driver

namespace Board

variable {board before after : Board} {controller : Controller} {handle : Handle}
variable {index name : Nat} {astray : Nat → Nat → Prop}

/-- Something happens to a board. Nobody but the drivers decides which events are
enabled. -/
inductive Happens : Board → Board → Prop
  | perform {operation : Operation} (hcauses : operation.Causes Disturbance.KeepsEnabled)
      (board) : Happens board (board.perform operation).2
  | deliver (index depth board) :
      Happens board ((onDriver index fun driver => ((), driver.dispatchNested depth)).run.run board).2

/-- Any number of things happen. -/
abbrev Runs : Board → Board → Prop :=
  Relation.ReflTransGen Happens

theorem Happens.reachable (hhappens : Happens before after) (hbefore : before.Reachable) :
    after.Reachable := by
  cases hhappens with
  | perform => exact hbefore.perform _
  | deliver index depth => exact hbefore.deliver index depth

theorem Runs.reachable (hruns : Runs before after) (hbefore : before.Reachable) :
    after.Reachable := by
  induction hruns with
  | refl => exact hbefore
  | tail _ hhappens ih => exact hhappens.reachable ih

theorem runs_performAll {operations : List Operation}
    (hcauses : ∀ operation ∈ operations, operation.Causes Disturbance.KeepsEnabled)
    (board : Board) : Runs board (board.performAll operations) := by
  induction operations generalizing board with
  | nil => exact .refl
  | cons operation operations ih =>
      obtain ⟨hfirst, hothers⟩ := List.forall_mem_cons.mp hcauses
      exact .head (.perform hfirst board) (ih hothers _)

theorem causes_ring : ∀ operation ∈ ringOperations, operation.Causes Disturbance.KeepsEnabled := by
  have hquiet : World.Causes Disturbance.KeepsEnabled fun _ => [] :=
    fun _ _ hmem => absurd hmem List.not_mem_nil
  simp only [ringOperations, List.forall_mem_cons]
  exact ⟨trivial, trivial, hquiet, fun _ hmem => absurd hmem List.not_mem_nil⟩

/-- The operation may leave the event of a channel enabled although the channel
does not run: it is a stop that finds the channel stopping, or a start that may be
overtaken by the interrupt handler. -/
inductive Misleads (index channel : Nat) (board : Board) : Operation → Prop
  | stop {name : Nat} {world : World} {answer : Answer} {after : Board} {controller : Controller}
      (hhandle : board.handle? name = some ⟨name, index, channel⟩)
      (hstop : board.perform (.channel name (.stop world)) = (.ok answer, after))
      (hfound : after.controllers[index]? = some controller)
      (hstopping : (controller.channelState channel).isStopping = true) :
      Misleads index channel board (.channel name (.stop world))
  | start {name : Nat} {world : World}
      (hhandle : board.handle? name = some ⟨name, index, channel⟩)
      (hinterrupts : world.Interrupts) :
      Misleads index channel board (.channel name (.start world))
  | submit {name : Nat} {order : Order} {world : World}
      (hhandle : board.handle? name = some ⟨name, index, channel⟩)
      (hinterrupts : world.Interrupts) :
      Misleads index channel board (.channel name (.submit order world))

/-! ## How channels come to stand -/

/-- Each channel makes moves. -/
def Stands (astray : Nat → Nat → Prop) (before after : Board) : Prop :=
  ∀ (index : Nat) (controller : Controller), after.controllers[index]? = some controller →
    ∃ earlier, before.controllers[index]? = some earlier ∧
      ∀ channel, (earlier.standings channel).Moves (astray index channel)
        (controller.standings channel)

theorem Stands.mono {wider : Nat → Nat → Prop} (hstands : Stands astray before after)
    (hwider : ∀ index channel, astray index channel → wider index channel) :
    Stands wider before after := by
  intro index controller hfound
  obtain ⟨earlier, hearlier, hmoves⟩ := hstands index controller hfound
  exact ⟨earlier, hearlier, fun channel => (hmoves channel).mono (hwider index channel)⟩

theorem Stands.of_eq (hsame : after.controllers = before.controllers) :
    Stands astray before after :=
  fun _ controller hfound => ⟨controller, hsame ▸ hfound, fun _ => .refl⟩

theorem Works.stands {hold : Board → Board → Prop}
    (hworks : Works (fun index => Driver.StandsWithin (astray index)) hold before after)
    (hmanaged : ∀ controller ∈ before.controllers, controller.managed ≤ 32) :
    Stands astray before after := by
  have hkept := Works.keep (fun board => Stands astray before board ∧
      ∀ controller ∈ board.controllers, controller.managed ≤ 32)
    hworks ?_ ?_ ⟨.of_eq rfl, hmanaged⟩
  · exact hkept.1
  · intro board index controller driver hfound hdriver ⟨hstands, hbound⟩
    obtain ⟨hsame, hmoves⟩ := hdriver (hbound controller (List.mem_of_getElem? hfound))
    refine ⟨fun other later hlater => ?_, fun later hmem => ?_⟩
    · have hset : (board.controllers.set index driver.controller)[other]? = some later := hlater
      rw [List.getElem?_set] at hset
      split at hset
      next hother =>
        subst hother
        split at hset <;> cases hset
        obtain ⟨earlier, hearlier, hbefore⟩ := hstands _ _ hfound
        exact ⟨earlier, hearlier, fun channel => (hbefore channel).trans (hmoves channel)⟩
      next => exact hstands _ _ hset
    · rcases List.mem_or_eq_of_mem_set hmem with hold | rfl
      · exact hbound later hold
      · exact hsame.trans_le (hbound controller (List.mem_of_getElem? hfound))
  · intro middle after hcontrollers _ _ ⟨hstands, hbound⟩
    refine ⟨fun index controller hfound => hstands index controller (hcontrollers ▸ hfound), ?_⟩
    rwa [hcontrollers]

/-! ## Operations on channels -/

/-- No driver manages more channels than there are events. -/
theorem Reachable.managed_le (hboard : board.Reachable) :
    ∀ controller ∈ board.controllers, controller.managed ≤ 32 := by
  intro controller hmem
  obtain ⟨channels, start, hnew, hsteps⟩ := hboard.controllers controller hmem
  rw [Controller.Steps.managed hsteps]
  unfold Controller.new? at hnew
  split at hnew
  next hchannels =>
    cases hnew
    exact (List.length_replicate.trans_le hchannels).trans (by decide)
  next => cases hnew

theorem Reachable.channel_lt (hboard : board.Reachable)
    (hhandle : board.handle? name = some handle) : handle.channel < 32 := by
  obtain ⟨controller, _, _, hfound, -, -, husable⟩ := hboard.usable (handle?_eq_some hhandle).1
  exact Nat.lt_of_lt_of_le husable (hboard.managed_le controller (List.mem_of_getElem? hfound))

variable {operation : ChannelOperation}

/-- A channel operation that is not a stop leads an event astray only if interrupts
are handled while a channel is started. -/
theorem works_stepChannel (hchannel : handle.channel < 32)
    (hcauses : operation.Causes Disturbance.KeepsEnabled)
    (hstop : ∀ world, operation ≠ .stop world)
    (hastray : ∀ world : World, (operation = .start world ∨
      ∃ order, operation = .submit order world) → world.Interrupts →
      astray handle.controller handle.channel) :
    Follows (Works (fun index => Driver.StandsWithin (astray index)) fun _ _ => True)
      (stepChannel handle operation) := by
  cases operation with
  | state | inspect => exact (works_view _ _).bind fun _ => follows_pure _
  | nextPeriod name =>
      refine (works_view _ _).bind fun future => ?_
      exact Follows.bind (works_modify fun _ => trivial) fun _ => follows_pure _
  | submit order world =>
      refine (works_during _ world).bind_of_yields (yields_during _ world) ?_
      rintro _ ⟨start, rfl⟩
      refine (works_exclusively handle (fun _ => trivial) ?_).bind fun _ => follows_pure _
      refine Driver.follows_onController fun controller references => .of_drives ?_ (fun hbound =>
        Controller.drives_submit (World.Causes.delayed hcauses start) hbound hchannel order) ?_
      · exact (Controller.sameAssignment_submit _ _ order controller).managed
      · exact fun hinterrupts => hastray world (.inr ⟨order, rfl⟩) hinterrupts.of_delayed
  | start world =>
      refine (works_during _ world).bind_of_yields (yields_during _ world) ?_
      rintro _ ⟨start, rfl⟩
      refine (works_exclusively handle (fun _ => trivial) ?_).bind fun _ => follows_pure _
      refine Driver.follows_onController fun controller references => .of_drives ?_ (fun hbound =>
        Controller.drives_start (World.Causes.delayed hcauses start) hbound hchannel) ?_
      · exact (Controller.sameAssignment_of_threadSteps (Controller.follows_start _ _)
          controller).managed
      · exact fun hinterrupts => hastray world (.inl rfl) hinterrupts.of_delayed
  | stop world => exact absurd rfl (hstop world)
  | register callback context owner =>
      refine (works_exclusively handle (fun _ => trivial) fun driver => .of_eq ?_ ?_).bind
        fun id => Follows.bind (works_modify fun _ => trivial) fun _ => follows_pure _
      · exact Controller.Steps.managed (Driver.follows_register _ callback context owner driver)
      · exact Driver.standings_register _ callback context owner driver
  | unregister number =>
      refine Follows.bind (works_modify fun _ => trivial) fun _ => follows_get_bind fun board => ?_
      refine (works_existing _).bind (fun id => ?_) board
      refine (works_attempt _ fun driver => .of_eq ?_ ?_).bind fun _ => follows_pure _
      · exact Controller.Steps.managed (Driver.follows_unregister _ id driver)
      · exact Driver.standings_unregister _ id driver
  | abandon =>
      exact Follows.bind (works_modify fun _ => trivial) fun _ => follows_pure _

/-- Operations on channels, stops apart. -/
theorem stands_channel (hmanaged : ∀ controller ∈ board.controllers, controller.managed ≤ 32)
    (hchannel : ∀ handle ∈ board.handle? name, handle.channel < 32)
    (hcauses : operation.Causes Disturbance.KeepsEnabled)
    (hstop : ∀ world, operation ≠ .stop world) :
    Stands (fun index channel => Misleads index channel board (.channel name operation)) board
      (board.perform (.channel name operation)).2 := by
  cases hhandle : board.handle? name with
  | none =>
      rw [perform_channel_of_none hhandle]
      exact .of_eq rfl
  | some handle =>
      obtain ⟨-, rfl⟩ := handle?_eq_some hhandle
      rw [perform_channel hhandle]
      refine Works.stands (works_stepChannel (hchannel handle hhandle) hcauses hstop ?_ board) hmanaged
      rintro world (rfl | ⟨order, rfl⟩) hinterrupts
      · exact .start hhandle hinterrupts
      · exact .submit hhandle hinterrupts

/-- A stop works on the controller of the channel. -/
theorem stands_stop {world : World} (hboard : board.Reachable)
    (hchannel : ∀ handle ∈ board.handle? name, handle.channel < 32)
    (hworld : world.Causes Disturbance.KeepsEnabled) :
    Stands (fun index channel => Misleads index channel board (.channel name (.stop world))) board
      (board.perform (.channel name (.stop world))).2 := by
  cases hhandle : board.handle? name with
  | none =>
      rw [perform_channel_of_none hhandle]
      exact .of_eq rfl
  | some handle =>
      obtain ⟨hmem, rfl⟩ := handle?_eq_some hhandle
      obtain ⟨controller, _, _, hfound, -⟩ := hboard.usable hmem
      have hperform := perform_stop hhandle hfound world
      cases hstop : (Controller.stop (world.delayed controller.clock) handle.channel).perform
          controller with
      | mk result later =>
          -- whatever the stop answers, the futures are gone and the controller is the later one
          have hafter : (board.perform (.channel handle.name (.stop world))).2 =
              (board.dropFutures handle).withDriver handle.controller ⟨later, board.references⟩ := by
            rw [hperform, hstop]
            cases result <;> rfl
          have hdropped : (board.dropFutures handle).controllers[handle.controller]? =
              some controller := hfound
          have hkept := Controller.managed_of_perform (Controller.follows_stop _ _) hstop
          have hdriver : Driver.StandsWithin (fun channel =>
              Misleads handle.controller channel board (.channel handle.name (.stop world)))
              ⟨controller, board.references⟩ ⟨later, board.references⟩ := by
            refine .of_drives hkept (fun hbound => Controller.drives_stop
              (hworld.delayed controller.clock) hbound (hchannel handle hhandle) hstop) ?_
            rintro ⟨rfl, hstopping⟩
            rw [hstop] at hperform
            exact .stop hhandle hperform (found_withDriver hdropped _) hstopping
          have hfreed : Works (fun index => Driver.StandsWithin fun channel =>
              Misleads index channel board (.channel handle.name (.stop world))) (fun _ _ => True)
              board (board.dropFutures handle) := .single (.hold rfl rfl trivial)
          rw [hafter]
          exact Works.stands (hfreed.tail (.driver hdropped hdriver)) hboard.managed_le

/-- Deliveries and operations that are not for a channel lead no event astray. -/
theorem Moves.stands (hmoves : Moves Disturbance.KeepsEnabled (fun _ _ => False) before after)
    (hmanaged : ∀ controller ∈ before.controllers, controller.managed ≤ 32) :
    Stands (fun _ _ => False) before after := by
  refine Works.stands (Works.mono (fun index before after hdriver hbound => ?_)
    (fun _ _ hhold => hhold) hmoves) hmanaged
  exact ⟨Controller.Steps.managed hdriver.steps, hdriver.stands hbound⟩

theorem stands_perform {operation : Operation} (hboard : board.Reachable)
    (hcauses : operation.Causes Disturbance.KeepsEnabled) :
    Stands (fun index channel => Misleads index channel board operation) board
      (board.perform operation).2 := by
  have hchannel : ∀ name, ∀ handle ∈ board.handle? name, handle.channel < 32 :=
    fun name handle hhandle => hboard.channel_lt hhandle
  by_cases hheld : ∃ name request, operation = .channel name request
  · obtain ⟨name, request, rfl⟩ := hheld
    by_cases hstop : ∃ world, request = .stop world
    · obtain ⟨world, rfl⟩ := hstop
      exact stands_stop hboard (hchannel name) hcauses
    · refine stands_channel hboard.managed_le (hchannel name) hcauses fun world hsame => ?_
      exact hstop ⟨world, hsame⟩
  · have hmoves : Moves Disturbance.KeepsEnabled (fun _ _ => False) board
        (board.perform operation).2 :=
      moves_perform (fun name request hsame => absurd ⟨name, request, hsame⟩ hheld) hcauses
    exact (hmoves.stands hboard.managed_le).mono fun _ _ => False.elim

/-! ## Hearing -/

/-- Whatever happens, channels make moves. Only operations that mislead lead an event
astray. -/
theorem Happens.stands (hhappens : Happens before after) (hbefore : before.Reachable) :
    Stands (fun index channel => ∃ operation, operation.Causes Disturbance.KeepsEnabled ∧
      Misleads index channel before operation ∧ after = (before.perform operation).2)
      before after := by
  cases hhappens with
  | @perform operation hcauses =>
      exact (stands_perform hbefore hcauses).mono fun index channel hmisleads =>
        ⟨operation, hcauses, hmisleads, rfl⟩
  | deliver index depth =>
      have huses : Uses Disturbance.KeepsEnabled (fun _ _ => False) before _ :=
        uses_deliver index depth before
      exact (huses.moves.stands hbefore.managed_le).mono fun _ _ => False.elim

/-- What the standings at a controller have, and moves keep, they have at all
times. -/
theorem Runs.keep {invariant : Standing → Prop} {start : Board} (hruns : Runs start board)
    (hstart : start.Reachable)
    (hmoves : ∀ {before after : Standing}, before.Moves True after → invariant before →
      invariant after)
    (hnew : ∀ controller ∈ start.controllers[index]?, ∀ channel,
      invariant (controller.standings channel)) :
    ∀ controller ∈ board.controllers[index]?, ∀ channel,
      invariant (controller.standings channel) := by
  induction hruns with
  | refl => exact hnew
  | tail hearlier hhappens ih =>
      intro controller hfound channel
      obtain ⟨earlier, hbefore, hmoved⟩ :=
        hhappens.stands (Runs.reachable hearlier hstart) index controller hfound
      exact hmoves ((hmoved channel).mono fun _ => trivial) (ih earlier hbefore channel)

theorem Runs.heard {start : Board} (hruns : Runs start board) (hstart : start.Reachable)
    (hclosed : ∀ controller ∈ start.controllers[index]?, controller.setup = none) :
    ∀ controller ∈ board.controllers[index]?, ∀ channel,
      (controller.standings channel).Heard := by
  refine hruns.keep hstart (fun hmoves => hmoves.heard) fun controller hfound channel => ?_
  refine .of_not_running (Standing.isRunning_of_vacant ?_)
  rw [Controller.standings, Controller.request?, hclosed controller hfound]
  rfl

/-- A channel that is running can be heard, whatever happened before: the bit of its
event is set, its transfer is recorded, and the last command that started or killed
the channel is the one that starts it at its slab. -/
theorem running_heard {start : Board} {channel : Nat} (hstart : start.Reachable)
    (hclosed : ∀ controller ∈ start.controllers[index]?, controller.setup = none)
    (hruns : Runs start board) (hfound : board.controllers[index]? = some controller)
    (hrunning : controller.isRunning channel = true) :
    ∃ setup, controller.setup = some setup ∧
      Controller.hasChannel (controller.read .interruptEnable) channel = true ∧
      (controller.transfer? channel).isSome = true ∧
      controller.lastCommand? channel =
        some (.go channel (setup.slabAddress channel) setup.device.nonsecure) := by
  have hmem := List.mem_of_getElem? hfound
  obtain ⟨henabled, hsome, hcommand⟩ := hruns.heard hstart hclosed controller hfound channel hrunning
  rw [Controller.transfer?_standings] at hsome
  cases hsetup : controller.setup with
  | none =>
      rw [Controller.transfer?, Controller.request?, hsetup] at hsome
      cases hsome
  | some setup =>
      have hreachable := (hruns.reachable hstart).controllers controller hmem
      obtain ⟨transfer, htransfer⟩ := Option.isSome_iff_exists.mp hsome
      rw [Controller.transfer?_eq hsetup] at htransfer
      have husable := Setup.lt_usable_of_transfer? htransfer
      rw [hreachable.measured setup hsetup] at husable
      have hchannel : channel < 32 :=
        (Nat.lt_of_lt_of_le husable (Nat.min_le_left ..)).trans_le
          ((hruns.reachable hstart).managed_le controller hmem)
      refine ⟨setup, rfl, ?_, hsome, ?_⟩
      · exact (Controller.enabled_standings hchannel controller).symm.trans henabled
      · have hlaunch : (controller.standings channel).launch =
            some (.go channel (setup.slabAddress channel) setup.device.nonsecure) := by
          rw [Controller.standings, hsetup]
          rfl
        exact hcommand.trans hlaunch

theorem running_heard_ring :
    ∃ controller ∈ (smallBoard.performAll ringOperations).controllers,
      controller.isRunning 0 = true ∧
        Controller.hasChannel (controller.read .interruptEnable) 0 = true ∧
        controller.lastCommand? 0 = some (.go 0 0x1000 false) := by
  have hfacts : (smallBoard.performAll ringOperations).controllers.map (fun controller =>
      (controller.isRunning 0, controller.setup.map fun setup =>
        (setup.slabAddress 0, setup.device.nonsecure))) = [(true, some (0x1000, false))] := by
    decide +kernel
  obtain ⟨controller, rest, hcontrollers, hfacts, -⟩ := List.map_eq_cons_iff.mp hfacts
  obtain ⟨hrunning, haddress⟩ := Prod.mk.inj hfacts
  have hfound : (smallBoard.performAll ringOperations).controllers[0]? = some controller := by
    rw [hcontrollers]
    rfl
  obtain ⟨setup, hsetup, henabled, -, hcommand⟩ :=
    running_heard (Reachable.new (show new? [1] 0 = some smallBoard from rfl)) (by decide)
      (runs_performAll causes_ring smallBoard) hfound hrunning
  rw [hsetup, Option.map_some, Option.some_inj] at haddress
  obtain ⟨haddress, hsecure⟩ := Prod.mk.inj haddress
  rw [haddress, hsecure] at hcommand
  exact ⟨controller, List.mem_of_getElem? hfound, hrunning, henabled, hcommand⟩

end Board

end CyclicDma
