import CyclicDma.Proofs.Controller.Launching

/-! # Guarding channels

A channel is guarded while it runs, because nobody takes it back then, and once the last
command killed it. What is done to other channels leaves it guarded, and so do submitting
to it, starting and stopping it, unless the driver finds it stopping and leaves it alone,
or starts it although the interrupt handler killed it meanwhile.
-/

namespace CyclicDma

namespace Standing

variable {before after standing : Standing}

theorem Guarded.of_stopped (hguarded : standing.Guarded) (hstopped : standing.isRunning = false) :
    standing.command = some .kill :=
  hguarded.resolve_left (by simp [hstopped])

/-- A channel that is handed over does not run. -/
theorem Handed.guarded (hhanded : Handed before after) (hguarded : before.Guarded) :
    after.Guarded := by
  cases hhanded with
  | keep => exact hguarded
  | allocate hfree => exact .inr (hguarded.of_stopped (isRunning_of_vacant hfree))
  | release hstopped => exact .inr (hguarded.of_stopped hstopped)
  | vacate hbefore _ hcommand =>
      exact .inr (hcommand.trans (hguarded.of_stopped (isRunning_of_vacant hbefore)))

/-- An abort that is taken note of was a kill. -/
theorem Guarded.noted (hguarded : standing.Guarded) : standing.noted.Guarded := by
  rcases standing.noted_cases with ⟨haborted, hnoted⟩ | ⟨-, hsame⟩
  · have hstopped : standing.isRunning = false := by simp [isRunning, haborted]
    rw [hnoted]
    exact .inr (hguarded.of_stopped hstopped)
  · rwa [hsame]

/-- What was submitted does not matter. -/
theorem Guarded.submitted (hguarded : standing.Guarded) (transfer : Option Transfer) :
    Guarded { standing with request := standing.request.map ({ · with transfer }) } := by
  refine hguarded.imp_left fun hrunning => ?_
  rw [isRunning, Option.any_map]
  exact hrunning

end Standing

namespace Controller

variable {before middle after controller : Controller} {channel driven : Nat} {world : World}

/-- The channel runs, or the last command killed it. -/
def Guarded (channel : Nat) (controller : Controller) : Prop :=
  (controller.standings channel).Guarded

theorem Guarded.of_update {standing : Standing}
    (hafter : after.standings = Function.update before.standings channel standing)
    (hguarded : standing.Guarded) : after.Guarded channel := by
  rw [Guarded, hafter, Function.update_self]
  exact hguarded

/-- A guarded channel stays guarded, while there are no more channels than events. -/
structure Guards (channel : Nat) (before after : Controller) : Prop where
  managed : after.managed = before.managed
  guarded : before.managed ≤ 32 → before.Guarded channel → after.Guarded channel

namespace Guards

theorem refl (controller : Controller) : Guards channel controller controller :=
  ⟨rfl, fun _ => id⟩

theorem trans (hfirst : Guards channel before middle) (hsecond : Guards channel middle after) :
    Guards channel before after where
  managed := hsecond.managed.trans hfirst.managed
  guarded hbound hguarded :=
    hsecond.guarded (hfirst.managed.trans_le hbound) (hfirst.guarded hbound hguarded)

theorem of_eq (hmanaged : after.managed = before.managed)
    (hsame : after.standings = before.standings) : Guards channel before after := by
  refine ⟨hmanaged, fun _ hguarded => ?_⟩
  rwa [Guarded, hsame]

/-- What is done to another channel. -/
theorem of_update {standing : Standing} (hmanaged : after.managed = before.managed)
    (hne : channel ≠ driven)
    (hafter : after.standings = Function.update before.standings driven standing) :
    Guards channel before after := by
  refine ⟨hmanaged, fun _ hguarded => ?_⟩
  rwa [Guarded, hafter, Function.update_of_ne hne]

theorem of_attends {interrupted : Prop} (hmanaged : after.managed = before.managed)
    (hattends : before.managed ≤ 32 → Attends interrupted before after) :
    Guards channel before after :=
  ⟨hmanaged, fun hbound hguarded => (hattends hbound channel).guarded hguarded⟩

end Guards

instance : Std.Refl (Guards channel) :=
  ⟨.refl⟩

instance : IsTrans Controller (Guards channel) :=
  ⟨fun _ _ _ => .trans⟩

/-! ## Other channels -/

/-- What registers show does not matter, nor what is recorded in passing. -/
theorem guards_registers {event : Event} (hevent : ∀ channel, event.drives? channel = none)
    (register : Register) (value : UInt32) (controller : Controller) :
    Guards channel controller
      ({ controller with registers := controller.registers.write register value }.record event) := by
  refine ⟨rfl, fun _ hguarded => ?_⟩
  rw [Guarded, standings_record hevent]
  exact hguarded

theorem guards_change (register : Register) (value : UInt32) (controller : Controller) :
    Guards channel controller (controller.change register value) :=
  guards_registers (fun _ => rfl) register value controller

theorem guards_write (register : Register) (value : UInt32) (controller : Controller) :
    Guards channel controller (controller.write register value) :=
  guards_registers (fun _ => rfl) register value controller

theorem guards_changeAll (changes : List (Register × UInt32)) (controller : Controller) :
    Guards channel controller (controller.changeAll changes) := by
  unfold changeAll
  induction changes generalizing controller with
  | nil => exact .refl controller
  | cons change changes ih => exact (guards_change change.1 change.2 controller).trans (ih _)

theorem guards_onInterrupt (controller : Controller) :
    Guards channel controller controller.onInterrupt.2 := by
  obtain ⟨-, -, hmanaged, -⟩ := onInterrupt_frame controller
  exact .of_attends hmanaged (attends_onInterrupt trivial)

theorem guards_log (message : LogMessage) (controller : Controller) :
    Guards channel controller (controller.log message) :=
  .of_eq (aside_log message controller).managed (standings_log message controller)

theorem guards_silence (thread : ThreadId) (controller : Controller) :
    Guards channel controller (controller.silence thread) := by
  cases thread with
  | manager => exact .refl controller
  | channel silenced =>
      unfold silence
      dsimp only
      split
      · exact (guards_write ..).trans (guards_write ..)
      · exact guards_write ..

/-- Stopping another thread leaves the channel alone. -/
theorem stopping_guards {thread : ThreadId} (hother : thread ≠ .channel channel) :
    Stopping thread (Guards channel) where
  change := guards_change
  interrupt := guards_onInterrupt
  tick controller := .of_eq rfl (standings_tick controller)
  log := guards_log
  kill controller := by
    have hmanaged := (aside_issue_kill thread controller).managed
    cases thread with
    | manager => exact .of_eq hmanaged (standings_issue_kill_manager controller)
    | channel killed =>
        have hne : channel ≠ killed := fun hsame => hother (hsame ▸ rfl)
        exact .of_update hmanaged hne (standings_issue_kill controller killed)
  silence := guards_silence thread
  markStopped controller := by
    cases thread with
    | manager => exact .refl controller
    | channel stopped =>
        have hne : channel ≠ stopped := fun hsame => hother (hsame ▸ rfl)
        exact .of_update rfl hne (standings_markStopped stopped controller)

/-- So does submitting to another channel. -/
theorem submitting_guards (hne : channel ≠ driven) : Submitting driven (Guards channel) where
  toStopping := stopping_guards fun hsame => hne (ThreadId.channel.inj hsame).symm
  noteAbort controller :=
    .of_update (managed_noteAbort driven controller) hne (standings_noteAbort driven controller)
  unmaskEvent controller := guards_write _ _ controller
  maskEvent controller := guards_write _ _ controller
  launch {controller setup transfer} _ _ := by
    obtain ⟨-, -, hnotifications, -⟩ := issue_frame (.channel driven)
      (.go driven (setup.slabAddress driven) setup.device.nonsecure) controller
    have hstarted := standings_started driven (setup.slabAddress driven) setup.device.nonsecure
      controller
    rw [standings_log] at hstarted
    exact .of_update (congrArg List.length hnotifications) hne hstarted
  forget controller := .of_update rfl hne (standings_updateRequest driven _ controller)
  install {controller setup order size slab} _ _ _ := by
    have hstored : Guards channel controller (controller.storeSlab slab driven) :=
      .of_eq rfl (standings_storeSlab slab driven controller)
    exact hstored.trans (.of_update rfl hne (standings_updateRequest driven _ _))

/-! ## The channel itself -/

theorem Guarded.noteAbort (hguarded : controller.Guarded channel) :
    (controller.noteAbort channel).Guarded channel :=
  .of_update (standings_noteAbort channel controller) hguarded.noted

theorem channelState_noteAbort (channel : Nat) (controller : Controller) :
    (controller.noteAbort channel).channelState channel = controller.channelState channel := by
  unfold Controller.noteAbort
  split
  · rfl
  · rfl

/-- A stop kills the channel, unless it finds it stopping and leaves it alone. -/
theorem guarded_stop {result : Except DmaError Unit} (hworld : world.Causes Disturbance.KeepsEnabled)
    (hmanaged : controller.managed ≤ 32) (hchannel : channel < 32)
    (hguarded : controller.Guarded channel)
    (hstop : (stop world channel).perform controller = (result, after)) :
    after.Guarded channel ∨ result = .ok () ∧ (after.channelState channel).isStopping = true := by
  have hnoted := hguarded.noteAbort
  have hbound := (managed_noteAbort channel controller).trans_le hmanaged
  rw [perform_stop] at hstop
  rcases stopThread_cases hworld hbound hchannel with
    ⟨error, stuck, hattends, hperform⟩ | ⟨waited, killed, hattends, hhalted, hperform⟩ |
    ⟨waited, -, -, hstopping, hperform⟩
  · cases hperform.symm.trans hstop
    exact .inl ((hattends channel).guarded hnoted)
  · cases hperform.symm.trans hstop
    exact .inl (.of_update hhalted (.inr rfl))
  · cases hperform.symm.trans hstop
    exact .inr ⟨rfl, hstopping⟩

/-- A channel that is launched runs, unless it was killed before. -/
theorem guarded_launch {waited : Controller} (hsome : (controller.transfer? channel).isSome = true)
    (hwaited : waitFor world (!·.isDebugBusy) waitBound (controller.unmaskEvent channel) =
      (true, waited)) {address : UInt32} {nonsecure : Bool}
    (hafter : after =
      ((waited.issue (.channel channel) (.go channel address nonsecure)).setRunning true channel).log
        (.started (.channel channel) address)) :
    after.Guarded channel ∨ (after.notificationsOf channel).aborted = true := by
  have hsame := (waits_waitFor world (!·.isDebugBusy) waitBound (controller.unmaskEvent channel)).setup
  rw [hwaited] at hsame
  have hstands := congrFun (standings_started channel address nonsecure waited) channel
  rw [← hafter, Function.update_self] at hstands
  have haborted : (after.notificationsOf channel).aborted =
      (waited.notificationsOf channel).aborted := congrArg Standing.aborted hstands
  rw [haborted]
  cases hlive : (waited.notificationsOf channel).aborted with
  | true => exact .inr rfl
  | false =>
      have hsome : (waited.transfer? channel).isSome = true := by
        rwa [transfer?_eq_of_setup hsame channel]
      rw [hafter]
      exact .inl (.inl (isRunning_started hsome hlive address nonsecure))

/-- A guarded channel that is to be launched stays guarded, unless the interrupt handler
killed it before. -/
theorem guarded_trigger {result : Except DmaError Unit} (hmanaged : controller.managed ≤ 32)
    (hguarded : controller.Guarded channel)
    (htrigger : (trigger world channel).perform controller = (result, after)) :
    after.Guarded channel ∨ result = .ok () ∧ (after.notificationsOf channel).aborted = true := by
  have htriggers := triggers_trigger world channel controller
  rw [htrigger] at htriggers
  cases htriggers with
  | leave | refuse => exact .inl hguarded
  | launch hsetup hidle hsome hwaited =>
      exact (guarded_launch hsome hwaited rfl).imp_right fun haborted => ⟨rfl, haborted⟩
  | @drop setup waited hsetup hidle hsome hwaited =>
      have hmanager : ThreadId.manager ≠ .channel channel := by exact nofun
      have hwaits : Guards channel (controller.unmaskEvent channel)
          (waitFor world (!·.isDebugBusy) waitBound (controller.unmaskEvent channel)).2 :=
        (stopping_guards hmanager).waitFor world _ _ _
      rw [hwaited] at hwaits
      refine .inl (Guards.guarded ?_ hmanaged hguarded)
      exact ((guards_write ..).trans hwaits).trans ((guards_log ..).trans (guards_write ..))

/-- A channel that is found stopped is launched or refused. -/
theorem guarded_trigger_of_stopped {result : Except DmaError Unit}
    (hstopped : controller.channelState channel = .stopped)
    (hidle : controller.wasStarted channel = false)
    (htrigger : (trigger world channel).perform controller = (result, after)) :
    after.Guarded channel ∨ result = .ok () ∧ (after.notificationsOf channel).aborted = true ∨
      ∃ error, result = .error error := by
  have htriggers := triggers_trigger world channel controller
  rw [htrigger] at htriggers
  cases htriggers with
  | leave hbusy => simp [hstopped, hidle] at hbusy
  | launch hsetup hidle hsome hwaited =>
      exact (guarded_launch hsome hwaited rfl).imp_right fun haborted => .inl ⟨rfl, haborted⟩
  | refuse | drop => exact .inr (.inr ⟨_, rfl⟩)

/-- A channel that is started stays guarded, unless the interrupt handler killed it
before, or the start fails although the channel was about to fault. -/
theorem guarded_startThread {result : Except DmaError Unit}
    (hworld : world.Causes Disturbance.KeepsEnabled) (hmanaged : controller.managed ≤ 32)
    (hchannel : channel < 32) (hguarded : controller.Guarded channel)
    (hstart : (startThread world channel).perform controller = (result, after)) :
    after.Guarded channel ∨ result = .ok () ∧ (after.notificationsOf channel).aborted = true ∨
      controller.channelState channel = .faultCompleting ∧ ∃ error, result = .error error := by
  have hstarts := startsThread_startThread world channel controller
  have hsettled := settled_settle hworld hmanaged hchannel
  rw [hstart] at hstarts
  cases hstarts with
  | leave => exact .inl hguarded
  | refuse =>
      refine .inl ?_
      rw [Guarded, standings_log]
      exact hguarded
  | stick hsettle =>
      rw [hsettle] at hsettled
      cases hsettled with
      | course hcourses => exact .inl (hcourses.driven.guarded hguarded)
  | trigger hsettle htrigger =>
      have hkept := managed_of_perform (follows_settle world channel _) hsettle
      rw [hsettle] at hsettled
      cases hsettled with
      | course hcourses =>
          have hstill := hcourses.driven.guarded hguarded
          exact (guarded_trigger (hkept.trans_le hmanaged) hstill htrigger).imp_right .inl
      | @spared waited _ hentry hstopped =>
          have hmarked := (Function.eq_update_iff.mp (standings_markStopped channel waited)).1
          have hidle : (waited.markStopped (.channel channel)).wasStarted channel = false :=
            (congrArg (fun standing => standing.request.any (·.running)) hmarked).trans
              (Standing.running_stopped _)
          have hstate : (waited.markStopped (.channel channel)).channelState channel =
              .stopped := hstopped
          have hlater := guarded_trigger_of_stopped hstate hidle htrigger
          exact hlater.imp_right (·.imp_right fun hrefused => ⟨hentry, hrefused⟩)

theorem guarded_start {result : Except DmaError Unit}
    (hworld : world.Causes Disturbance.KeepsEnabled) (hmanaged : controller.managed ≤ 32)
    (hchannel : channel < 32) (hguarded : controller.Guarded channel)
    (hstart : (start world channel).perform controller = (result, after)) :
    after.Guarded channel ∨ result = .ok () ∧ (after.notificationsOf channel).aborted = true ∨
      controller.channelState channel = .faultCompleting ∧ ∃ error, result = .error error := by
  rw [perform_start] at hstart
  rw [← channelState_noteAbort]
  exact guarded_startThread hworld ((managed_noteAbort ..).trans_le hmanaged) hchannel
    hguarded.noteAbort hstart

/-! ## Submitting -/

theorem Guarded.setTransfer (hguarded : controller.Guarded channel) (transfer : Option Transfer) :
    (controller.setTransfer transfer channel).Guarded channel :=
  .of_update (standings_updateRequest channel ({ · with transfer }) controller)
    (hguarded.submitted transfer)

/-- Writing a program leaves the state of the channel alone, and the channel guarded. -/
theorem guarded_install {result : Except DmaError Unit} {transfer : Transfer} {setup : Setup}
    (hguarded : controller.Guarded channel)
    (hinstall : (install transfer channel setup).perform controller = (result, after)) :
    after.Guarded channel ∧ after.channelState channel = controller.channelState channel := by
  have hforgotten := hguarded.setTransfer none
  have hinstalls := installs_install transfer channel setup controller
  rw [hinstall] at hinstalls
  cases hinstalls with
  | fail => exact ⟨hforgotten, rfl⟩
  | write =>
      refine ⟨?_, congrArg ChannelState.ofStatus (read_log ..)⟩
      rw [Guarded, standings_log]
      refine Guarded.setTransfer ?_ (some transfer)
      rw [Guarded, standings_storeSlab]
      exact hforgotten

/-- A channel that is submitted to stays guarded, unless the interrupt handler killed it
before it was started. -/
theorem guarded_submit {result : Except DmaError Unit} {order : Order}
    (hworld : world.Causes Disturbance.KeepsEnabled) (hmanaged : controller.managed ≤ 32)
    (hchannel : channel < 32) (hguarded : controller.Guarded channel)
    (hsubmit : (submit world channel order).perform controller = (result, after)) :
    after.Guarded channel ∨ result = .ok () ∧ (after.notificationsOf channel).aborted = true := by
  have hnoted := hguarded.noteAbort
  have hbound := (managed_noteAbort channel controller).trans_le hmanaged
  have hsubmits := submits_submit world channel order controller
  rw [hsubmit] at hsubmits
  generalize controller.noteAbort channel = noted at hnoted hbound hsubmits
  cases hsubmits with
  | refuse => exact .inl hnoted
  | fail hsetup hidle hinstall => exact .inl (guarded_install hnoted hinstall).1
  | start hsetup hidle hstopped _ hinstall hstart =>
      have hkept := (managed_of_install hsetup hinstall).trans_le hbound
      obtain ⟨hinstalled, hsame⟩ := guarded_install hnoted hinstall
      rcases guarded_start hworld hkept hchannel hinstalled hstart with
        hstill | haborted | ⟨hstate, -⟩
      · exact .inl hstill
      · exact .inr haborted
      · -- a channel that is submitted to is stopped
        rw [hsame, hstopped] at hstate
        cases hstate

end Controller

end CyclicDma
