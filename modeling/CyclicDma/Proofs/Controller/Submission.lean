import CyclicDma.Proofs.Controller.Operations
import CyclicDma.Proofs.Controller.Programs

/-! # Transfers that were submitted

A submission that succeeds leaves the transfer of its order recorded. Nobody but
the holder of a channel submits to it, so the transfer is recorded even if
interrupts come while the channel is being started.
-/

namespace CyclicDma.Controller

variable {before after controller : Controller} {world : World} {channel : Nat}

/-! ## What driving threads keeps -/

theorem transfer?_setRunning (running : Bool) (channel other : Nat) (controller : Controller) :
    (controller.setRunning running channel).transfer? other = controller.transfer? other := by
  cases hsetup : controller.setup with
  | none => simp only [setRunning, updateRequest, transfer?, request?, hsetup, Option.map_none]
  | some setup =>
      have hafter : (controller.setRunning running channel).setup =
          some (setup.updateRequest channel ({ · with running })) := by
        rw [setRunning, updateRequest, hsetup]
        rfl
      rw [transfer?_eq hafter, transfer?_eq hsetup, Setup.transfer?_setRunning]

theorem ThreadStep.submitted (hstep : ThreadStep before after) :
    after.config = before.config ∧
      ∀ channel, after.transfer? channel = before.transfer? channel := by
  cases hstep with
  | aside haside => exact ⟨haside.config, transfer?_eq_of_setup haside.setup⟩
  | interrupt =>
      obtain ⟨hsetup, hconfig, -⟩ := onInterrupt_frame before
      exact ⟨hconfig, transfer?_eq_of_setup hsetup⟩
  | setAborted channel aborted => exact ⟨rfl, transfer?_eq_of_setup rfl⟩
  | setRunning running channel => exact ⟨rfl, fun other => transfer?_setRunning ..⟩
  | launch hsetup htransfer =>
      obtain ⟨hkept, hconfig, -⟩ := issue_frame _ _ before
      exact ⟨hconfig, transfer?_eq_of_setup hkept⟩

/-- Driving threads keeps the configuration, and what was submitted. -/
theorem ThreadSteps.submitted (hsteps : ThreadSteps before after) :
    after.config = before.config ∧
      ∀ channel, after.transfer? channel = before.transfer? channel := by
  induction hsteps with
  | refl => exact ⟨rfl, fun _ => rfl⟩
  | tail _ hstep ih =>
      obtain ⟨hconfig, htransfer⟩ := hstep.submitted
      exact ⟨hconfig.trans ih.1, fun channel => (htransfer channel).trans (ih.2 channel)⟩

/-! ## Requests -/

theorem request?_updateRequest (update : Request → Request) (controller : Controller) :
    (controller.updateRequest channel update).request? channel =
      (controller.request? channel).map update := by
  simp only [updateRequest, request?]
  cases controller.setup with
  | none => rfl
  | some setup =>
      simp only [Option.map_some, Option.bind_some, List.getElem?_modify_eq]
      rcases setup.requests[channel]? with _ | _ | request <;> rfl

/-- What is recorded for a channel that is free stays unrecorded. -/
theorem transfer?_setTransfer (transfer : Option Transfer) (controller : Controller) :
    (controller.setTransfer transfer channel).transfer? channel =
      (controller.request? channel).bind fun _ => transfer := by
  rw [transfer?, setTransfer, request?_updateRequest, Option.bind_map]
  rfl

theorem request?_storeSlab (slab : List UInt8) (channel other : Nat) (controller : Controller) :
    (controller.storeSlab slab channel).request? other = controller.request? other := by
  simp only [storeSlab, request?]
  cases controller.setup <;> rfl

/-- The channel stands still, and as far as its holder knows it was not
started. -/
structure Idle (channel : Nat) (controller : Controller) : Prop where
  state : controller.channelState channel = .stopped
  started : controller.wasStarted channel = false

theorem Idle.log (hidle : controller.Idle channel) (message : LogMessage) :
    (controller.log message).Idle channel := by
  refine ⟨?_, ?_⟩
  · rw [channelState, read, registers_log]
    exact hidle.state
  · rw [wasStarted, request?, (aside_log message controller).setup]
    exact hidle.started

theorem Idle.updateRequest (hidle : controller.Idle channel) {update : Request → Request}
    (hupdate : ∀ request, (update request).running = true → request.running = true) :
    (controller.updateRequest channel update).Idle channel := by
  refine ⟨hidle.state, ?_⟩
  have hstarted := hidle.started
  rw [wasStarted] at hstarted ⊢
  rw [request?_updateRequest]
  cases hrequest : controller.request? channel with
  | none => rfl
  | some request =>
      rw [hrequest] at hstarted
      exact Bool.eq_false_iff.mpr fun hrunning =>
        Bool.eq_false_iff.mp hstarted (hupdate request hrunning)

theorem Idle.noteAbort (hidle : controller.Idle channel) :
    (controller.noteAbort channel).Idle channel := by
  unfold Controller.noteAbort
  split
  · have hmarked : (controller.updateNotifications channel ({ · with aborted := false })).Idle
        channel := ⟨hidle.state, hidle.started⟩
    exact hmarked.updateRequest nofun
  · exact hidle

/-! ## Starting an idle channel -/

/-- An idle channel is only started if a transfer was submitted to it. -/
theorem Idle.isSome_transfer? (hidle : controller.Idle channel)
    (htrigger : (trigger world channel).perform controller = (.ok (), after)) :
    (controller.transfer? channel).isSome := by
  cases htransfer : controller.transfer? channel with
  | some transfer => rfl
  | none =>
      have htriggers := triggers_trigger world channel controller
      rw [htrigger] at htriggers
      cases htriggers with
      | leave hbusy => simp [hidle.state, hidle.started] at hbusy
      | launch _ _ hsome => exact (Option.not_isSome_iff_eq_none.mpr htransfer hsome).elim

theorem Idle.perform_startThread (hidle : controller.Idle channel) :
    (startThread world channel).perform controller =
      (trigger world channel).perform controller := by
  have hget : (get : Attempt Controller Controller).perform controller =
      (.ok controller, controller) := rfl
  rw [startThread, Attempt.perform_bind_of_ok hget, hidle.state]
  rfl

/-- Starting an idle channel leaves the transfer as it was submitted. -/
theorem Idle.transfer?_of_start (hidle : controller.Idle channel)
    (hstart : (start world channel).perform controller = (.ok (), after)) :
    ∃ transfer, controller.transfer? channel = some transfer ∧
      after.transfer? channel = some transfer ∧ after.config = controller.config := by
  obtain ⟨hconfig, hkept⟩ := (follows_start world channel controller).submitted
  obtain ⟨-, hnoted⟩ := (threadSteps_noteAbort channel controller).submitted
  have hend : ((start world channel).run.run controller).2 = after := congrArg Prod.snd hstart
  rw [hend] at hconfig hkept
  rw [perform_start, hidle.noteAbort.perform_startThread] at hstart
  obtain ⟨transfer, htransfer⟩ :=
    Option.isSome_iff_exists.mp (hidle.noteAbort.isSome_transfer? hstart)
  rw [hnoted channel] at htransfer
  exact ⟨transfer, htransfer, (hkept channel).trans htransfer, hconfig⟩

/-! ## Submitting -/

/-- A channel is idle when a transfer was written, and its transfer is recorded
unless the channel is free. -/
theorem Idle.installed {transfer : Transfer} {setup : Setup} (hidle : controller.Idle channel)
    (hinstall : (install transfer channel setup).perform controller = (.ok (), after)) :
    after.Idle channel ∧ after.config = controller.config ∧
      ∀ recorded, after.transfer? channel = some recorded → recorded = transfer := by
  have hinstalls := installs_install transfer channel setup controller
  rw [hinstall] at hinstalls
  cases hinstalls with
  | @write size slab =>
      have hforgotten : (controller.setTransfer none channel).Idle channel :=
        hidle.updateRequest fun _ hrunning => hrunning
      have hstored : ((controller.setTransfer none channel).storeSlab slab channel).Idle channel := by
        refine ⟨hforgotten.state, ?_⟩
        rw [wasStarted, request?_storeSlab]
        exact hforgotten.started
      have hrecorded : (((controller.setTransfer none channel).storeSlab slab channel).setTransfer
          (some transfer) channel).Idle channel :=
        hstored.updateRequest fun _ hrunning => hrunning
      have hlogged := aside_log (.programmed channel size transfer.periods transfer.periodBytes)
        (((controller.setTransfer none channel).storeSlab slab channel).setTransfer (some transfer)
          channel)
      refine ⟨hrecorded.log _, hlogged.config, fun recorded hafter => ?_⟩
      rw [transfer?_eq_of_setup hlogged.setup, transfer?_setTransfer] at hafter
      obtain ⟨request, -, heq⟩ := Option.bind_eq_some_iff.mp hafter
      cases heq
      rfl

/-- A submission that succeeds leaves its transfer recorded. -/
theorem submitted_of_submit {order : Order}
    (hsubmit : (submit world channel order).perform controller = (.ok (), after)) :
    after.config = controller.config ∧
      after.transfer? channel = some (order.transfer controller.config) := by
  have hconfig := (threadSteps_noteAbort channel controller).submitted.1
  have hsubmits := submits_submit world channel order controller
  rw [hsubmit] at hsubmits
  cases hsubmits with
  | start _ hstarted hstopped _ hinstall hstart =>
      have hidle : (controller.noteAbort channel).Idle channel := ⟨hstopped, hstarted⟩
      obtain ⟨hready, hsame, hrecorded⟩ := hidle.installed hinstall
      -- if the channel were free, it could not have been started
      obtain ⟨transfer, hbefore, hafter, hkept⟩ := hready.transfer?_of_start hstart
      rw [← hconfig]
      exact ⟨hkept.trans hsame, hrecorded transfer hbefore ▸ hafter⟩

end CyclicDma.Controller
