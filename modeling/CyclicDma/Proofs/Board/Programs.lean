import CyclicDma.Proofs.Board.Confinement
import CyclicDma.Proofs.Board.Futures
import CyclicDma.Proofs.Board.Starting
import CyclicDma.Proofs.Driver.Commands

/-! # Launched programs

Whatever clients and the outside world do to a board, the slab of a channel holds the program
of the transfer that is recorded for the channel. Only whoever holds a channel launches it, by
starting it or by submitting to it. The program is in place then, and the launch names the slab
that it is in.
-/

namespace CyclicDma.Board

variable {board : Board} {before : Controller} {operation : Operation} {index : Nat}

/-! ## Who launches a channel -/

/-- An operation launches a channel of a controller at a moment. The thread of the channel was
started then, as whoever holds the channel asked for it. -/
inductive LaunchesIn (board : Board) (index channel : Nat) (moment after : Controller) :
    Operation → Prop
  | intro {name : Nat} {request : ChannelOperation} {world : World} {before called : Controller}
      (hrequest : request.Launches world)
      (hhandle : board.handle? name = some ⟨name, index, channel⟩)
      (hbefore : board.controllers[index]? = some before)
      (hprepares : Controller.Prepares channel before request.order? called)
      (hlaunches :
        Controller.LaunchesAt (world.delayed before.clock) channel called moment after) :
      LaunchesIn board index channel moment after (.channel name request)

/-- A launch is asked for by whoever holds the channel. -/
theorem exists_of_launches {demand : Driver.Demand} (hasked : operation.Asks board index demand)
    (hlaunches : demand.Launches) :
    ∃ name channel request world, operation = .channel name request ∧
      ChannelOperation.Launches world request ∧
      board.handle? name = some ⟨name, index, channel⟩ := by
  have hdrives : ∃ channel, demand.Drives channel := by
    cases hlaunches with
    | submit world channel order => exact ⟨channel, .submit world order⟩
    | start world channel => exact ⟨channel, .start world⟩
  obtain ⟨channel, hdrives⟩ := hdrives
  obtain ⟨name, world, hhandle, rfl | ⟨request, hrequest, rfl⟩⟩ := exists_of_drives hasked hdrives
  · obtain ⟨_, -, -, _, rfl⟩ := hasked
    cases hlaunches
  · exact ⟨name, channel, request, world, rfl, hrequest, hhandle⟩

/-- A start or a submission launches nothing, or it launches the channel. -/
theorem launches_channel {request : ChannelOperation} {name channel : Nat} {world : World}
    (hrequest : request.Launches world)
    (hhandle : board.handle? name = some ⟨name, index, channel⟩) (hchannel : channel < 32)
    (hfound : board.controllers[index]? = some before) :
    ∃ after, (board.perform (.channel name request)).2.controllers[index]? = some after ∧
      (Controller.GoesOn Event.IsLaunch before after ∨
        ∃ moment, board.LaunchesIn index channel moment after (.channel name request)) := by
  cases hperform : board.perform (.channel name request) with
  | mk outcome last =>
      rw [perform_channel hhandle] at hperform
      cases hrequest with
      | start =>
          obtain ⟨result, after, hdriven, hafter, -⟩ :=
            drive_cases hfound (fun world => Controller.start world channel) hperform
          refine ⟨after, hafter, ?_⟩
          rcases Controller.launches_of_start _ hchannel hdriven with
            hnone | ⟨-, called, moment, hprepares, hlaunches⟩
          · exact .inl hnone
          · exact .inr ⟨moment, .intro .start hhandle hfound hprepares hlaunches⟩
      | submit order =>
          obtain ⟨result, after, hdriven, hafter, -⟩ :=
            drive_cases hfound (fun world => Controller.submit world channel order) hperform
          refine ⟨after, hafter, ?_⟩
          rcases Controller.launches_of_submit _ hchannel hdriven with
            hnone | ⟨-, called, moment, hprepares, hlaunches⟩
          · exact .inl hnone
          · exact .inr ⟨moment, .intro (.submit order) hhandle hfound hprepares hlaunches⟩

/-- An operation launches nothing at a controller, or a single channel. -/
theorem launches_perform (hboard : board.Reachable) (operation : Operation)
    (hfound : board.controllers[index]? = some before) :
    ∃ after, (board.perform operation).2.controllers[index]? = some after ∧
      (Controller.GoesOn Event.IsLaunch before after ∨
        ∃ channel moment, board.LaunchesIn index channel moment after operation) := by
  by_cases hasked : ∃ demand : Driver.Demand, operation.Asks board index demand ∧ demand.Launches
  · obtain ⟨demand, hasks, hlaunches⟩ := hasked
    obtain ⟨name, channel, request, world, rfl, hrequest, hhandle⟩ :=
      exists_of_launches hasks hlaunches
    obtain ⟨after, hafter, hcases⟩ :=
      launches_channel hrequest hhandle (hboard.channel_lt hhandle) hfound
    exact ⟨after, hafter, hcases.imp_right fun ⟨moment, hmoment⟩ => ⟨channel, moment, hmoment⟩⟩
  · obtain ⟨after, hafter, hnone⟩ := related_of_asks (fun demand hasks =>
      demand.launchless fun hlaunches => hasked ⟨demand, hasks, hlaunches⟩) hfound
    exact ⟨after, hafter, .inl hnone⟩

/-- Deliveries launch nothing. -/
theorem launchless_deliver (delivering depth : Nat)
    (hfound : board.controllers[index]? = some before) :
    ∃ after,
      ((onDriver delivering fun driver => ((), driver.dispatchNested depth)).run.run
        board).2.controllers[index]? = some after ∧
      Controller.GoesOn Event.IsLaunch before after := by
  have hdelivers : Follows (Works (fun _ => Driver.Launchless) fun _ _ => True)
      (onDriver delivering fun driver => ((), driver.dispatchNested depth)) :=
    works_onDriver delivering (Driver.delivering_launchless.dispatchNested depth)
  exact Works.related (hdelivers board) (fun _ _ => id) hfound

/-! ## What is launched -/

/-- An operation makes a launch after what is older in the history. A transfer is recorded for
the channel at that moment, the program of the transfer is in place, and the launch names the
slab that it is in. -/
inductive LaunchesInPlace (board : Board) (operation : Operation) (index : Nat)
    (after : Controller) : Event → List Event → Prop
  | intro {channel : Nat} {address : UInt32} {nonsecure : Bool} {moment : Controller}
      {setup : Setup} {transfer : Transfer} {older : List Event}
      (hlaunches : board.LaunchesIn index channel moment after operation)
      (holder : moment.history = older)
      (hsetup : moment.setup = some setup) (htransfer : moment.transfer? channel = some transfer)
      (hplaced : setup.InPlace moment.config channel transfer)
      (hnamed :
        (moment.issue (.channel channel) (.go channel address nonsecure)).read .debugInstruction1 =
          setup.busAddress + UInt32.ofNat (Region.slabBytes * channel)) :
      LaunchesInPlace board operation index after
        (.issue (.channel channel) (.go channel address nonsecure)) older

/-- An operation that launches a channel makes a single launch. -/
theorem LaunchesIn.inPlace {channel : Nat} {moment after : Controller}
    (hlaunches : board.LaunchesIn index channel moment after operation)
    (hboard : board.Reachable) (hfound : board.controllers[index]? = some before) :
    ∃ events, after.history = events ++ before.history ∧
      ∀ newer older event, event.IsLaunch → events = newer ++ event :: older →
        board.LaunchesInPlace operation index after event (older ++ before.history) := by
  have hlaunching := hlaunches
  cases hlaunches with
  | @intro name request world earlier called _ _ hbefore hprepares hlaunches =>
      cases hfound.symm.trans hbefore
      obtain ⟨setup, transfer, events, hsetup, htransfer, hhistory, hevents⟩ :=
        hlaunches.only hprepares.launchless
      obtain ⟨channels, start, hnew, hsteps⟩ :=
        hboard.controllers before (List.mem_of_getElem? hbefore)
      have hmoment : moment.Reachable :=
        ⟨channels, start, hnew, hsteps.trans (hprepares.steps.trans hlaunches.steps)⟩
      refine ⟨events, hhistory, fun newer older event hlaunch hsplit => ?_⟩
      obtain ⟨holder, rfl⟩ := hevents newer older event hlaunch hsplit
      refine .intro hlaunching holder hsetup htransfer (hmoment.inPlace hsetup htransfer) ?_
      rw [Controller.read_issue_debugInstruction1, Controller.secondWord_go, Setup.slabAddress]

/-- The launches that an operation adds to a history are made by it. -/
theorem launchesInPlace_perform (hboard : board.Reachable) (operation : Operation)
    (hfound : board.controllers[index]? = some before) :
    ∃ after events, (board.perform operation).2.controllers[index]? = some after ∧
      after.history = events ++ before.history ∧
      ∀ newer older event, event.IsLaunch → events = newer ++ event :: older →
        board.LaunchesInPlace operation index after event (older ++ before.history) := by
  obtain ⟨after, hafter, ⟨events, hhistory, hnone⟩ | ⟨channel, moment, hlaunches⟩⟩ :=
    launches_perform hboard operation hfound
  · refine ⟨after, events, hafter, hhistory, ?_⟩
    rintro newer older event hlaunch rfl
    exact absurd hlaunch (hnone event (List.mem_append_right _ List.mem_cons_self))
  · obtain ⟨events, hhistory, hevents⟩ := hlaunches.inPlace hboard hfound
    exact ⟨after, events, hafter, hhistory, hevents⟩

/-- Every launch in the history of a controller was made by an operation that led here. -/
theorem Reachable.launched (hboard : board.Reachable) {controller : Controller}
    {newer older : List Event} {event : Event} (hlaunch : event.IsLaunch)
    (hfound : board.controllers[index]? = some controller)
    (hhistory : controller.history = newer ++ event :: older) :
    ∃ (earlier : Board) (operation : Operation) (after : Controller), earlier.Reachable ∧
      (earlier.perform operation).2.controllers[index]? = some after ∧
      earlier.LaunchesInPlace operation index after event older ∧
      Onward (earlier.perform operation).2 board := by
  induction hboard generalizing controller newer with
  | new hnew =>
      obtain ⟨channels, hnew⟩ := new_of_new? hnew controller (List.mem_of_getElem? hfound)
      rw [Controller.history_new hnew] at hhistory
      exact absurd hhistory.symm (by simp)
  | @perform board operation hboard ih =>
      obtain ⟨before, hbefore, -⟩ := (moves_anything operation board).extends _ _ hfound
      obtain ⟨after, events, hafter, hadded, hlaunches⟩ :=
        launchesInPlace_perform hboard operation hbefore
      cases hfound.symm.trans hafter
      -- the launch is one of this operation, or it was there before
      rcases Controller.append_cases (hhistory.symm.trans hadded) with
        ⟨recent, hevents, rfl⟩ | ⟨between, -, hbetween⟩
      · exact ⟨board, operation, controller, hboard, hafter,
          hlaunches newer recent event hlaunch hevents, .refl⟩
      · obtain ⟨earlier, made, later, hearlier, hlater, hmade, honward⟩ := ih hbefore hbetween
        exact ⟨earlier, made, later, hearlier, hlater, hmade,
          honward.tail (.perform operation board)⟩
  | @deliver board delivering depth hboard ih =>
      have hmoves : Moves (fun _ => True) (fun _ _ => True) board _ :=
        (uses_deliver delivering depth board).moves
      obtain ⟨before, hbefore, -⟩ := hmoves.extends _ _ hfound
      obtain ⟨after, hafter, events, hadded, hnone⟩ :=
        launchless_deliver delivering depth hbefore
      cases hfound.symm.trans hafter
      obtain ⟨between, -, hbetween⟩ :=
        Controller.exists_append_of_kind hlaunch (hhistory.symm.trans hadded) hnone
      obtain ⟨earlier, made, later, hearlier, hlater, hmade, honward⟩ := ih hbefore hbetween
      exact ⟨earlier, made, later, hearlier, hlater, hmade,
        honward.tail (.deliver delivering depth board)⟩

/-- A recorded transfer has its program in place. Every launch that an operation adds to a
history is made by the operation at a moment of its own: whoever holds the channel had its
thread started, and the program of the recorded transfer was in place at the slab that the
launch names. Deliveries launch nothing, so every launch in a history was made in this way. -/
theorem programs_inPlace (hboard : board.Reachable) :
    (∀ controller ∈ board.controllers, ∀ setup channel transfer,
      controller.setup = some setup → controller.transfer? channel = some transfer →
      setup.InPlace controller.config channel transfer) ∧
    (∀ operation (index : Nat) (before : Controller), board.controllers[index]? = some before →
      ∃ after events, (board.perform operation).2.controllers[index]? = some after ∧
        after.history = events ++ before.history ∧
        ∀ newer older event, event.IsLaunch → events = newer ++ event :: older →
          board.LaunchesInPlace operation index after event (older ++ before.history)) ∧
    (∀ delivering depth (index : Nat) (before : Controller),
      board.controllers[index]? = some before →
      ∃ after,
        ((onDriver delivering fun driver => ((), driver.dispatchNested depth)).run.run
          board).2.controllers[index]? = some after ∧
        Controller.GoesOn Event.IsLaunch before after) ∧
    ∀ (index : Nat) (controller : Controller) newer older event, event.IsLaunch →
      board.controllers[index]? = some controller →
      controller.history = newer ++ event :: older →
      ∃ (earlier : Board) (operation : Operation) (after : Controller), earlier.Reachable ∧
        (earlier.perform operation).2.controllers[index]? = some after ∧
        earlier.LaunchesInPlace operation index after event older ∧
        Onward (earlier.perform operation).2 board :=
  ⟨fun controller hmem _ _ _ => (hboard.controllers controller hmem).inPlace,
    fun operation _ _ hfound => launchesInPlace_perform hboard operation hfound,
    fun delivering depth _ _ hfound => launchless_deliver delivering depth hfound,
    fun _ _ _ _ _ hlaunch hfound hhistory => hboard.launched hlaunch hfound hhistory⟩

/-- The submission launches the channel while the program is in place, and the launch names the
slab that it is in. The program is still there afterwards. -/
theorem programs_inPlace_ring :
    ∃ after setup, (smallBoard.performAll ringOperations).controllers = [after] ∧
      after.setup = some setup ∧
      setup.InPlace after.config 0 (ringOrder.transfer (Config.withBurst 1 4 {})) ∧
      ∃ moment setup transfer,
        readyBoard.LaunchesIn 0 0 moment after (.channel 7 (.submit ringOrder fun _ => [])) ∧
        moment.setup = some setup ∧ moment.transfer? 0 = some transfer ∧
        setup.InPlace moment.config 0 transfer ∧ setup.busAddress = 0x1000 ∧
        (moment.issue (.channel 0) (.go 0 0x1000 false)).read .debugInstruction1 = 0x1000 := by
  have hearlier : readyBoard.controllers.map (fun controller =>
      decide (.issue (.channel 0) (.go 0 0x1000 false) ∈ controller.history)) = [false] := by
    decide +kernel
  have hlater : (smallBoard.performAll ringOperations).controllers.map (fun controller =>
      (controller.transfer? 0,
        decide (.issue (.channel 0) (.go 0 0x1000 false) ∈ controller.history))) =
      [(some (ringOrder.transfer (Config.withBurst 1 4 {})), true)] := by
    decide +kernel
  obtain ⟨before, hready, hnever⟩ := List.map_eq_singleton_iff.mp hearlier
  obtain ⟨last, hlast, hmarks⟩ := List.map_eq_singleton_iff.mp hlater
  obtain ⟨htransfer, hlaunch⟩ := Prod.mk.inj hmarks
  have hfound : readyBoard.controllers[0]? = some before := by rw [hready]; rfl
  obtain ⟨-, hlaunched, -⟩ := programs_inPlace reachable_ready
  obtain ⟨after, events, hafter, hhistory, hmoments⟩ :=
    hlaunched (.channel 7 (.submit ringOrder fun _ => [])) 0 before hfound
  have hsubmitted : (readyBoard.perform (.channel 7 (.submit ringOrder fun _ => []))).2 =
      smallBoard.performAll ringOperations := rfl
  rw [hsubmitted, hlast] at hafter
  cases hafter
  -- the launch is not older than the submission
  have hmem : Event.issue (.channel 0) (.go 0 0x1000 false) ∈ events := by
    have hall := of_decide_eq_true hlaunch
    rw [hhistory] at hall
    exact (List.mem_append.mp hall).resolve_right (of_decide_eq_false hnever)
  obtain ⟨newer, older, hevents⟩ := List.append_of_mem hmem
  obtain ⟨hall, -⟩ := programs_inPlace reachable_ring
  have hmade := hmoments newer older (.issue (.channel 0) (.go 0 0x1000 false)) trivial hevents
  cases hmade with
  | @intro _ _ _ moment setup transfer _ hlaunches _ hsetup hrecorded hplaced hnamed =>
      have hread : (moment.issue (.channel 0) (.go 0 0x1000 false)).read .debugInstruction1 =
          0x1000 := by
        rw [Controller.read_issue_debugInstruction1, Controller.secondWord_go]
      rw [hread] at hnamed
      cases hopened : last.setup with
      | none => simp [Controller.transfer?, Controller.request?, hopened] at htransfer
      | some opened =>
          refine ⟨last, opened, hlast, hopened, ?_, moment, setup, transfer, hlaunches, hsetup,
            hrecorded, hplaced, ?_, hread⟩
          · exact hall last (hlast ▸ List.mem_singleton_self last) opened 0 _ hopened htransfer
          · simpa using hnamed.symm

end CyclicDma.Board
