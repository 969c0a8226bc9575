import CyclicDma.Proofs.Controller.Driving

/-! # Launching channels

The event of a channel is enabled before the channel is started, and masked again
if it cannot be. Between the two the driver waits for the debug interface, and the
interrupt handler may kill the channel.
-/

namespace CyclicDma.Controller

variable {before after controller : Controller} {channel : Nat} {world : World}

theorem transfer?_standings (controller : Controller) (channel : Nat) :
    (controller.standings channel).transfer? = controller.transfer? channel :=
  rfl

/-- The channel is taken for running once the command is handed over. -/
theorem standings_started (channel : Nat) (address : UInt32) (nonsecure : Bool)
    (controller : Controller) :
    (((controller.issue (.channel channel) (.go channel address nonsecure)).setRunning true channel).log
        (.started (.channel channel) address)).standings =
      Function.update controller.standings channel
        { controller.standings channel with
          request := (controller.standings channel).request.map ({ · with running := true })
          command := some (.go channel address nonsecure) } := by
  rw [standings_log, setRunning, standings_updateRequest, standings_issue_go]
  simp only [Function.update_self, Function.update_idem]

/-- The channel runs then, if it was not killed before. -/
theorem isRunning_started (hsome : (controller.transfer? channel).isSome = true)
    (hlive : (controller.notificationsOf channel).aborted = false) (address : UInt32)
    (nonsecure : Bool) :
    (((controller.issue (.channel channel) (.go channel address nonsecure)).setRunning true channel).log
        (.started (.channel channel) address)).isRunning channel = true := by
  have hstands := congrFun (standings_started channel address nonsecure controller) channel
  rw [Function.update_self] at hstands
  obtain ⟨request, transfer, hrequest, -⟩ :=
    Standing.exists_request ((transfer?_standings controller channel).symm ▸ hsome)
  have hasked : (controller.standings channel).aborted = false := hlive
  refine (congrArg Standing.isRunning hstands).trans ?_
  rw [Standing.isRunning, hrequest, hasked]
  rfl

/-- What becomes of a channel that is to be launched, told by how the channels stand. -/
theorem trigger_cases (hworld : world.Causes Disturbance.KeepsEnabled)
    (hmanaged : controller.managed ≤ 32) (hchannel : channel < 32) :
    (∃ result, (controller.channelState channel ≠ .stopped ∨
        (controller.standings channel).request.any (·.running) = true ∨
        (controller.standings channel).transfer? = none) ∧
      (trigger world channel).perform controller = (result, controller)) ∨
    ∃ address nonsecure waited after,
      (controller.standings channel).launch = some (.go channel address nonsecure) ∧
      (controller.standings channel).transfer?.isSome = true ∧
      (controller.standings channel).request.any (·.running) = false ∧
      Attends world.Interrupts (controller.unmaskEvent channel) waited ∧
      ((trigger world channel).perform controller = (.ok (), after) ∧
          after.standings = Function.update waited.standings channel
            { waited.standings channel with
              request := (waited.standings channel).request.map ({ · with running := true })
              command := some (.go channel address nonsecure) } ∨
        (trigger world channel).perform controller = (.error .timeout, after) ∧
          after.standings =
            Function.update waited.standings channel (waited.standings channel).masked) := by
  have hwaits := attends_waitFor hworld (!·.isDebugBusy) waitBound (controller.unmaskEvent channel)
    hmanaged
  have hlaunch {setup : Setup} (hsetup : controller.setup = some setup) :
      (controller.standings channel).launch =
        some (.go channel (setup.slabAddress channel) setup.device.nonsecure) := by
    rw [standings, hsetup]
    rfl
  have htriggers := triggers_trigger world channel controller
  generalize htrigger : (trigger world channel).perform controller = outcome at htriggers ⊢
  cases htriggers with
  | leave hbusy => exact .inl ⟨_, hbusy.imp_right .inl, rfl⟩
  | refuse hnone => exact .inl ⟨_, .inr (.inr hnone), rfl⟩
  | launch hsetup hidle hsome hwaited =>
      rw [hwaited] at hwaits
      exact .inr ⟨_, _, _, _, hlaunch hsetup, hsome, hidle, hwaits,
        .inl ⟨rfl, standings_started ..⟩⟩
  | @drop setup waited hsetup hidle hsome hwaited =>
      rw [hwaited] at hwaits
      have hdropped : Attends world.Interrupts (controller.unmaskEvent channel)
          (waited.log (.dropped (.go channel (setup.slabAddress channel) setup.device.nonsecure)
            (.channel channel))) := hwaits.trans (.of_eq (standings_log ..))
      exact .inr ⟨_, _, _, _, hlaunch hsetup, hsome, hidle, hdropped,
        .inr ⟨rfl, standings_maskEvent hchannel _⟩⟩

/-- A channel that was settled is started, or left with its event masked. -/
theorem trigger_moves {standing : Standing} (hworld : world.Causes Disturbance.KeepsEnabled)
    (hmanaged : controller.managed ≤ 32) (hchannel : channel < 32)
    (hbase : controller.standings channel = standing ∨
      controller.standings channel = standing.stopped ∧
        controller.channelState channel = .stopped)
    (hsound : standing.aborted = true → world.Interrupts) :
    standing.Moves world.Interrupts
        (((trigger world channel).perform controller).2.standings channel) ∧
      ∀ other, other ≠ channel → (controller.standings other).Attends world.Interrupts
        (((trigger world channel).perform controller).2.standings other) := by
  rcases trigger_cases hworld hmanaged hchannel with
    ⟨result, hreason, hperform⟩ |
    ⟨address, nonsecure, waited, after, hlaunch, hsome, hidle, hwaits, hperform⟩
  · rw [hperform]
    refine ⟨?_, fun other _ => .refl _⟩
    rcases hbase with hsame | ⟨hstopped, hstate⟩
    · rw [hsame]
    · rw [hstopped, Standing.running_stopped, Standing.transfer?_stopped] at hreason
      rw [hstopped]
      have hnone : standing.transfer? = none := by simpa [hstate] using hreason
      exact .single (.rest hnone)
  · -- a channel that does not run stands as if it was just stopped
    have hstopped : controller.standings channel = standing.stopped := by
      rcases hbase with hsame | ⟨hstopped, -⟩
      · rw [← hsame, Standing.stopped_eq hidle]
      · exact hstopped
    rw [hstopped] at hlaunch hsome
    rw [Standing.transfer?_stopped] at hsome
    have henabled : (controller.unmaskEvent channel).standings channel =
        { standing.stopped with enabled := true } := by
      rw [standings_unmaskEvent hchannel, Function.update_self, hstopped]
    have hself := hwaits channel
    rw [henabled] at hself
    have hothers : ∀ other, other ≠ channel →
        (controller.standings other).Attends world.Interrupts (waited.standings other) := by
      intro other hne
      have hother := hwaits other
      rwa [standings_unmaskEvent hchannel, Function.update_of_ne hne] at hother
    rcases hperform with ⟨hperform, hafter⟩ | ⟨hperform, hafter⟩
    · rw [hperform]
      obtain ⟨hdriven, hkept⟩ := Function.eq_update_iff.mp hafter
      refine ⟨?_, fun other hne => hkept other hne ▸ hothers other hne⟩
      rw [hdriven, ← hlaunch]
      rcases hself with hquiet | ⟨-, hkilled⟩
      · have hlaunched : standing.Move world.Interrupts standing.stopped.launched := by
          have hgo : standing.launch = some (.go channel address nonsecure) := hlaunch
          rw [Standing.launched_stopped]
          exact .launch hgo hsome hsound
        rw [hquiet]
        exact .single hlaunched
      · have hovertaken : standing.Move world.Interrupts
            { standing.stopped.killed.launched with enabled := false } := by
          have hsame : standing.stopped.killed.launched = standing.killed.launched :=
            Standing.launched_stopped standing.killed
          rw [hsame]
          exact .overtake standing
        rw [hkilled]
        exact .single hovertaken
    · rw [hperform]
      obtain ⟨hdriven, hkept⟩ := Function.eq_update_iff.mp hafter
      refine ⟨?_, fun other hne => hkept other hne ▸ hothers other hne⟩
      rw [hdriven]
      rcases hself with hquiet | ⟨-, hkilled⟩
      · rw [hquiet]
        exact .single (.mask standing)
      · rw [hkilled]
        exact .tail (.single (.mask standing)) (.kill _)

/-- A channel that was not aborted before is aborted only by the interrupt handler,
while it is being settled. -/
theorem drives_startThread (hworld : world.Causes Disturbance.KeepsEnabled)
    (hmanaged : controller.managed ≤ 32) (hchannel : channel < 32)
    (hsound : (controller.standings channel).aborted = false) :
    Drives channel world.Interrupts controller ((startThread world channel).perform controller).2 := by
  have haborted : ∀ {middle}, Courses channel world.Interrupts controller middle →
      (middle.standings channel).aborted = true → world.Interrupts := by
    intro middle hcourses haborted
    exact (hcourses.driven.aborted haborted).resolve_left (by simp [hsound])
  have hstarts := startsThread_startThread world channel controller
  have hsettled := settled_settle hworld hmanaged hchannel
  generalize (startThread world channel).perform controller = outcome at hstarts ⊢
  cases hstarts with
  | leave => exact .of_eq rfl
  | refuse => exact .of_eq (standings_log ..)
  | stick hsettle =>
      rw [hsettle] at hsettled
      cases hsettled with
      | course hcourses => exact hcourses.drives
  | trigger hsettle htrigger =>
      have hkept := managed_of_perform (follows_settle world channel _) hsettle
      have hbound := hkept.trans_le hmanaged
      rw [hsettle] at hsettled
      rw [← htrigger]
      cases hsettled with
      | course hcourses =>
          obtain ⟨hdriven, hothers⟩ := trigger_moves hworld hbound hchannel (.inl rfl)
            (haborted hcourses)
          refine hcourses.drives.trans ⟨hdriven, fun other hne => ?_⟩
          exact (hothers other hne).moves
      | @spared waited hcourses _ hstopped =>
          obtain ⟨hmarked, hkept⟩ :=
            Function.eq_update_iff.mp (standings_markStopped channel waited)
          obtain ⟨hdriven, hothers⟩ := trigger_moves hworld hbound hchannel
            (.inr ⟨hmarked, hstopped⟩) (haborted hcourses)
          refine hcourses.drives.trans ⟨hdriven, fun other hne => ?_⟩
          exact hkept other hne ▸ (hothers other hne).moves

/-- Taking note of an abort is a move. -/
theorem drives_noteAbort {astray : Prop} (channel : Nat) (controller : Controller) :
    Drives channel astray controller (controller.noteAbort channel) :=
  drives_update (.note _) (standings_noteAbort channel controller)

theorem drives_start (hworld : world.Causes Disturbance.KeepsEnabled)
    (hmanaged : controller.managed ≤ 32) (hchannel : channel < 32) :
    Drives channel world.Interrupts controller ((start world channel).perform controller).2 := by
  rw [perform_start]
  refine (drives_noteAbort channel controller).trans
    (drives_startThread hworld ((managed_noteAbort ..).trans_le hmanaged) hchannel ?_)
  rw [standings_noteAbort, Function.update_self, Standing.aborted_noted]

/-! ## Submitting -/

theorem wasStarted_setTransfer (transfer : Option Transfer) (channel : Nat)
    (controller : Controller) :
    (controller.setTransfer transfer channel).wasStarted channel =
      controller.wasStarted channel := by
  have hself := (Function.eq_update_iff.mp
    (standings_updateRequest channel ({ · with transfer }) controller)).1
  exact (congrArg (fun standing => standing.request.any (·.running)) hself).trans
    (Option.any_map ..)

/-- A transfer is recorded for a channel that does not run. -/
theorem drives_setTransfer {astray : Prop} (transfer : Option Transfer)
    (hidle : controller.wasStarted channel = false) :
    Drives channel astray controller (controller.setTransfer transfer channel) :=
  drives_update (.submit transfer hidle) (standings_updateRequest ..)

theorem drives_install {astray : Prop} (transfer : Transfer) (setup : Setup)
    (hidle : controller.wasStarted channel = false) :
    Drives channel astray controller ((install transfer channel setup).perform controller).2 := by
  have hforget : Drives channel astray controller (controller.setTransfer none channel) :=
    drives_setTransfer none hidle
  have hinstalls := installs_install transfer channel setup controller
  generalize (install transfer channel setup).perform controller = outcome at hinstalls ⊢
  cases hinstalls with
  | fail => exact hforget
  | @write size slab =>
      have hstored : ((controller.setTransfer none channel).storeSlab slab channel).standings =
          (controller.setTransfer none channel).standings := standings_storeSlab ..
      have hidle : ((controller.setTransfer none channel).storeSlab slab channel).wasStarted
          channel = false := by
        refine (congrArg (fun standing => standing.request.any (·.running))
          (congrFun hstored channel)).trans ?_
        exact (wasStarted_setTransfer none channel controller).trans hidle
      refine (hforget.trans (.of_eq hstored)).trans ?_
      exact (drives_setTransfer (some transfer) hidle).trans (.of_eq (standings_log ..))

theorem drives_submit (hworld : world.Causes Disturbance.KeepsEnabled)
    (hmanaged : controller.managed ≤ 32) (hchannel : channel < 32) (order : Order) :
    Drives channel world.Interrupts controller
      ((submit world channel order).perform controller).2 := by
  have hnoted : Drives channel world.Interrupts controller (controller.noteAbort channel) :=
    drives_noteAbort channel controller
  refine hnoted.trans ?_
  have hbound := (managed_noteAbort channel controller).trans_le hmanaged
  have hsubmits := submits_submit world channel order controller
  generalize (submit world channel order).perform controller = outcome at hsubmits ⊢
  generalize controller.noteAbort channel = noted at hbound hsubmits ⊢
  cases hsubmits with
  | refuse => exact .of_eq rfl
  | @fail setup _ _ _ hidle hinstall =>
      have hinstalled : Drives channel world.Interrupts noted
          ((install (order.transfer noted.config) channel setup).perform noted).2 :=
        drives_install _ setup hidle
      rwa [hinstall] at hinstalled
  | @start setup _ _ hsetup hidle _ _ hinstall hstart =>
      have hinstalled : Drives channel world.Interrupts noted
          ((install (order.transfer noted.config) channel setup).perform noted).2 :=
        drives_install _ setup hidle
      have hkept := managed_of_install hsetup hinstall
      rw [hinstall] at hinstalled
      rw [← hstart]
      exact hinstalled.trans (drives_start hworld (hkept.trans_le hbound) hchannel)

/-! ## Stopping -/

theorem perform_stop (world : World) (channel : Nat) (controller : Controller) :
    (stop world channel).perform controller =
      (stopThread world (.channel channel)).perform (controller.noteAbort channel) :=
  rfl

/-- Only a stop that finds the channel stopping may lead its event astray. -/
theorem drives_stop {result : Except DmaError Unit} (hworld : world.Causes Disturbance.KeepsEnabled)
    (hmanaged : controller.managed ≤ 32) (hchannel : channel < 32)
    (hstop : (stop world channel).perform controller = (result, after)) :
    Drives channel (result = .ok () ∧ (after.channelState channel).isStopping = true)
      controller after := by
  refine (drives_noteAbort channel controller).trans ?_
  have hbound := (managed_noteAbort channel controller).trans_le hmanaged
  rw [perform_stop] at hstop
  rcases stopThread_cases hworld hbound hchannel with
    ⟨error, stuck, hattends, hperform⟩ | ⟨waited, killed, hattends, hhalted, hperform⟩ |
    ⟨waited, hattends, -, hstopping, hperform⟩
  · cases hperform.symm.trans hstop
    exact hattends.drives
  · cases hperform.symm.trans hstop
    exact hattends.drives.trans (drives_update (.halt _) hhalted)
  · cases hperform.symm.trans hstop
    exact hattends.drives.trans
      (drives_update (.spare ⟨rfl, hstopping⟩) (standings_markStopped channel waited))

/-- A channel that was stopped does not run. If its event is still enabled, the
stop found the channel stopping and did nothing to it. -/
structure Stops (channel : Nat) (before after : Controller) : Prop where
  stopped : (after.standings channel).request.any (·.running) = false
  spared : (after.standings channel).enabled = true →
    (after.channelState channel).isStopping = true ∧
      (after.standings channel).command = (before.standings channel).command ∧
      (before.standings channel).enabled = true

theorem stops_of_stop (hworld : world.Causes Disturbance.KeepsEnabled)
    (hmanaged : controller.managed ≤ 32) (hchannel : channel < 32)
    (hstop : (stop world channel).perform controller = (.ok (), after)) :
    Stops channel controller after := by
  have hbound := (managed_noteAbort channel controller).trans_le hmanaged
  rw [perform_stop] at hstop
  rcases stopThread_cases hworld hbound hchannel with
    ⟨error, stuck, -, hperform⟩ | ⟨waited, killed, -, hhalted, hperform⟩ |
    ⟨waited, hattends, -, hstopping, hperform⟩
  · cases hperform.symm.trans hstop
  · cases hperform.symm.trans hstop
    have hself := (Function.eq_update_iff.mp hhalted).1
    refine ⟨?_, fun henabled => ?_⟩
    · rw [hself]
      exact Standing.running_stopped _
    · rw [hself] at henabled
      cases henabled
  · cases hperform.symm.trans hstop
    have hself := (Function.eq_update_iff.mp (standings_markStopped channel waited)).1
    have hwaited := hattends channel
    rw [standings_noteAbort, Function.update_self] at hwaited
    refine ⟨?_, fun henabled => ?_⟩
    · rw [hself]
      exact Standing.running_stopped _
    · rw [hself] at henabled ⊢
      rcases hwaited with hquiet | ⟨-, hkilled⟩
      · obtain ⟨hcommand, hkept⟩ := (controller.standings channel).noted_frame
        refine ⟨hstopping, ?_, ?_⟩
        · exact (congrArg Standing.command hquiet).trans hcommand
        · exact hkept.symm.trans ((congrArg Standing.enabled hquiet).symm.trans henabled)
      · exact absurd ((congrArg Standing.enabled hkilled).symm.trans henabled) Bool.false_ne_true

/-- Stopping the manager drives no channel. -/
theorem attends_stopManager (hworld : world.Causes Disturbance.KeepsEnabled)
    (hmanaged : controller.managed ≤ 32) :
    Attends world.Interrupts controller ((stopManager world).perform controller).2 := by
  have hdecide : (decidingState world .manager).perform controller =
      (.ok (controller.threadState .manager), controller) := rfl
  unfold stopManager stopThread
  rw [Attempt.perform_bind_of_ok hdecide]
  dsimp only
  split
  · obtain ⟨waited, hattends, hexecute | hexecute⟩ :=
      execute_cases hworld hmanaged .manager .kill
    · rw [Attempt.perform_bind_of_ok hexecute]
      have hissued : (waited.issue .manager .kill).standings = waited.standings :=
        standings_issue_kill_manager waited
      exact hattends.trans (.of_eq ((standings_log ..).trans hissued))
    · rw [Attempt.perform_bind_of_ok hexecute]
      exact hattends.trans (.of_eq (standings_log ..))
  · exact .refl controller

end CyclicDma.Controller
