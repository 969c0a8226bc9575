import CyclicDma.Proofs.Board.Reachable
import CyclicDma.Proofs.Controller.Submission
import CyclicDma.Proofs.Program.Addresses

/-! # Rings

A client submits a ring of bytes. Once the submission succeeds, the slab of its
channel holds a program that reads and writes the ring over and over: each pass
accesses each byte of the whole periods once and in order.
-/

namespace CyclicDma

/-! ## Executing slabs -/

namespace Setup

variable {setup : Setup} {config : Config} {channel : Nat} {transfer : Transfer}

/-- The program of a transfer that is in place can be executed. -/
theorem Sound.programmed (hsound : setup.Sound config)
    (htransfer : setup.transfer? channel = some transfer) :
    ∃ size, transfer.Programmed (.ofNat channel) (setup.region.slab channel) size := by
  have hplace := hsound.inPlace htransfer
  obtain ⟨size, hprogram⟩ := hplace.program
  obtain ⟨written, hwrite, hslab⟩ := hprogram _ hplace.slab
  obtain ⟨hmeasure, -, -⟩ := Program.write_eq_ok hwrite
  obtain ⟨-, -, pass, hpass, hjump, -⟩ := Program.measure_eq_ok hmeasure
  refine ⟨pass, fun peripheral hmem => ?_, ?_, hpass, hjump, ?_⟩
  · rw [UInt8.lt_iff_toNat_lt]
    exact Nat.lt_of_lt_of_le (hplace.allowed.peripheral peripheral hmem) hsound.peripherals
  · have hchannel : channel < 8 := Nat.lt_of_lt_of_le hplace.usable.1 hplace.usable.2
    rw [UInt8.lt_iff_toNat_lt, UInt8.toNat_ofNat']
    exact Nat.lt_of_le_of_lt (Nat.mod_le ..) (Nat.lt_trans hchannel (by decide))
  · rw [Placed, List.drop_zero, ← Program.take_written hwrite, ← hslab]
    exact List.take_prefix ..

end Setup

/-! ## Rings of orders -/

namespace Order

/-- The bytes of the whole periods of the ring. -/
def ringBytes (order : Order) : Nat :=
  order.totalBytes.toNat / order.periodBytes.toNat * order.periodBytes.toNat

/-- The bus address of the ring on the side of an address register. -/
def start (order : Order) : AddressRegister → UInt32
  | .source => order.source
  | .destination => order.destination

/-- The addresses of a pass on the side of an address register: the bytes of the
ring in memory, or the address of the peripheral each time. -/
def ring (order : Order) (register : AddressRegister) : List UInt32 :=
  span (order.direction.isMemory register) (order.start register) order.ringBytes

end Order

/-- Each pass of the transfer of an order accesses its ring. -/
theorem Setup.InPlace.accesses {setup : Setup} {config : Config} {channel : Nat} {order : Order}
    (hplace : setup.InPlace config channel (order.transfer config)) (passes : Nat)
    (register : AddressRegister) (address : UInt32) :
    register.accesses address ((order.transfer config).programTrace (.ofNat channel) passes) =
      (List.replicate passes (order.ring register)).flatten := by
  have hbeat := hplace.supported.burstSize_le order.direction
  have hstart : (order.transfer config).start register = order.start register := by
    cases register <;> rfl
  have hbytes : (order.transfer config).periods.toNat *
      (order.transfer config).periodBytes.toNat = order.ringBytes := by
    rw [Order.ringBytes, Order.transfer, UInt32.toNat_div]
  rw [Transfer.accesses_programTrace register _ hplace.shape hbeat, hstart, hbytes, Order.ring,
    ← Direction.increments_control order.direction register config.control]
  rfl

theorem Driver.onController_eq_ok {α : Type} {action : Attempt Controller α} {value : α}
    {driver after : Driver}
    (hdone : (onController action).perform driver = (.ok value, after)) :
    action.perform driver.controller = (.ok value, after.controller) := by
  cases haction : action.perform driver.controller with
  | mk result controller =>
      have hresult : (onController action).perform driver = (result, { driver with controller }) := by
        change onController action driver = _
        rw [onController, haction]
      rw [hresult] at hdone
      cases hdone
      rfl

namespace Board

/-! ## Submissions that succeed -/

variable {board after : Board} {α : Type}

/-- Work on a controller replaces the controller, and what clients hold stays. -/
theorem onDriver_eq_ok {index : Nat} {action : StateM Driver α} {result : α}
    (hdone : (onDriver index action).run.run board = (.ok result, after)) :
    ∃ controller driver, board.controllers[index]? = some controller ∧
      action.run ⟨controller, board.references⟩ = (result, driver) ∧
      after =
        { board with
          controllers := board.controllers.set index driver.controller
          references := driver.references } := by
  obtain ⟨_, _, hget, hrest⟩ := run_bind_eq_ok hdone
  cases hget
  obtain ⟨controller, middle, hfound, hrest⟩ := run_bind_eq_ok hrest
  obtain ⟨hcontroller, rfl⟩ := existing_eq_ok hfound
  cases haction : action.run ⟨controller, board.references⟩ with
  | mk answer driver =>
      rw [haction] at hrest
      cases hrest
      exact ⟨controller, driver, hcontroller, haction, rfl⟩

theorem attempt_eq_ok {index : Nat} {action : Attempt Driver α} {value : α}
    (hdone : (attempt index action).run.run board = (.ok value, after)) :
    ∃ controller driver, board.controllers[index]? = some controller ∧
      action.perform ⟨controller, board.references⟩ = (.ok value, driver) ∧
      after =
        { board with
          controllers := board.controllers.set index driver.controller
          references := driver.references } := by
  obtain ⟨result, middle, hwork, hrest⟩ := run_bind_eq_ok hdone
  obtain ⟨controller, driver, hfound, haction, hmiddle⟩ := onDriver_eq_ok hwork
  cases result with
  | error error => cases hrest
  | ok result =>
      cases hrest
      exact ⟨controller, driver, hfound, haction, hmiddle⟩

/-- A submission succeeds at the controller of a channel that the client
holds. -/
theorem submit_eq_ok {name : Nat} {order : Order} {world : World} {answer : Answer}
    (hsubmit : board.perform (.channel name (.submit order world)) = (.ok answer, after)) :
    ∃ handle noticed before later, board.handle? name = some handle ∧
      (Controller.submit noticed handle.channel order).perform before = (.ok (), later) ∧
      after.controllers[handle.controller]? = some later := by
  -- the name, the time and the attempt are looked at in turn
  obtain ⟨_, _, hget, hnamed⟩ := run_bind_eq_ok hsubmit
  cases hget
  obtain ⟨handle, _, hexisting, hstep⟩ := run_bind_eq_ok hnamed
  obtain ⟨hhandle, rfl⟩ := existing_eq_ok hexisting
  obtain ⟨noticed, _, -, hwork⟩ := run_bind_eq_ok hstep
  obtain ⟨_, _, hexclusive, hanswer⟩ := run_bind_eq_ok hwork
  cases hanswer
  obtain ⟨_, freed, -, hattempt⟩ := run_bind_eq_ok hexclusive
  obtain ⟨before, driver, hfound, hperform, rfl⟩ := attempt_eq_ok hattempt
  refine ⟨handle, noticed, before, driver.controller, hhandle, ?_, ?_⟩
  · exact Driver.onController_eq_ok hperform
  · exact found_withDriver hfound driver

/-! ## Rings of clients -/

/-- Once a submission succeeds, the slab of its channel can be executed from its
first byte, whatever the thread did before. It never gets stuck, and makes as
many passes as one likes. Whatever the address registers were, each pass
accesses the ring of the order: from its first byte to its last, without a gap,
on a side in memory, and at one address on the other. -/
theorem covers_ring {name : Nat} {order : Order} {world : World} {answer : Answer}
    (hboard : board.Reachable)
    (hsubmit : board.perform (.channel name (.submit order world)) = (.ok answer, after)) :
    ∃ handle controller setup, board.handle? name = some handle ∧
      after.controllers[handle.controller]? = some controller ∧
      controller.setup = some setup ∧
      ∀ counters control,
        (∀ steps, (Thread.run (setup.region.slab handle.channel) steps
          ⟨0, counters, control, 0⟩).isSome) ∧
        ∀ passes, ∃ steps trace last,
          Thread.run (setup.region.slab handle.channel) steps ⟨0, counters, control, 0⟩ =
            some (trace, last) ∧
          last.passes = passes ∧ last.AtForever (setup.region.slab handle.channel) ∧
          ∀ (register : AddressRegister) address,
            register.accesses address trace =
              (List.replicate (passes + 1) (order.ring register)).flatten := by
  obtain ⟨handle, noticed, before, controller, hhandle, hperform, hcontroller⟩ :=
    submit_eq_ok hsubmit
  obtain ⟨hconfig, htransfer⟩ := Controller.submitted_of_submit hperform
  have hafter : after.Reachable := by
    have hperformed := hboard.perform (.channel name (.submit order world))
    rwa [hsubmit] at hperformed
  have hsound := (hafter.controllers controller (List.mem_of_getElem? hcontroller)).sound
  cases hsetup : controller.setup with
  | none => simp [Controller.transfer?, Controller.request?, hsetup] at htransfer
  | some setup =>
      rw [Controller.transfer?_eq hsetup, ← hconfig] at htransfer
      refine ⟨handle, controller, setup, hhandle, hcontroller, hsetup, ?_⟩
      intro counters control
      obtain ⟨size, hprogrammed⟩ := (hsound.setup setup hsetup).programmed htransfer
      obtain ⟨hsome, hpasses⟩ := hprogrammed.executes counters control
      refine ⟨hsome, fun passes => ?_⟩
      obtain ⟨steps, last, hrun, hlast, hforever⟩ := hpasses passes
      have hplace := (hsound.setup setup hsetup).inPlace htransfer
      exact ⟨steps, _, last, hrun, hlast, hforever, hplace.accesses (passes + 1)⟩

theorem covers_ring_ringOrder :
    ∃ setup : Setup, ∀ passes, ∃ steps trace last,
      Thread.run (setup.region.slab 0) steps ⟨0, fun _ => 7, .zero, 0⟩ = some (trace, last) ∧
        last.passes = passes ∧
        AddressRegister.source.accesses 0x77 trace =
          (List.replicate (passes + 1) ((List.range 12).map (0x2000 + .ofNat ·))).flatten ∧
        AddressRegister.destination.accesses 0x77 trace =
          (List.replicate (passes + 1) ((List.range 12).map (0x3000 + .ofNat ·))).flatten := by
  have hready : (smallBoard.performAll (ringOperations.take 2)).Reachable :=
    (Reachable.new (show new? [1] 0 = some smallBoard from rfl)).performAll _
  have hheld : (smallBoard.performAll (ringOperations.take 2)).handle? 7 = some ⟨7, 0, 0⟩ := by
    decide +kernel
  have hok : ((smallBoard.performAll (ringOperations.take 2)).perform
      (.channel 7 (.submit ringOrder fun _ => []))).1.toBool = true := by
    decide +kernel
  cases hsubmit : (smallBoard.performAll (ringOperations.take 2)).perform
      (.channel 7 (.submit ringOrder fun _ => [])) with
  | mk result after =>
      rw [hsubmit] at hok
      cases result with
      | error refusal => cases hok
      | ok answer =>
          obtain ⟨handle, _, setup, hhandle, -, -, hruns⟩ := covers_ring hready hsubmit
          cases hhandle.symm.trans hheld
          refine ⟨setup, fun passes => ?_⟩
          obtain ⟨steps, trace, last, hrun, hpasses, -, haccesses⟩ :=
            (hruns (fun _ => 7) .zero).2 passes
          exact ⟨steps, trace, last, hrun, hpasses, haccesses .source 0x77,
            haccesses .destination 0x77⟩

end Board

end CyclicDma
