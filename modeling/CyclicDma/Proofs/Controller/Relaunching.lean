import CyclicDma.Proofs.Controller.Guarding
import CyclicDma.Proofs.Controller.Recovery

/-! # Starting what was submitted

A transfer that was submitted may be started later, for instance because its channel
could not be launched at the time. A start goes by the transfer that is recorded and by
where its program is. Driving threads keeps both, so a start comes to nothing or launches
the program that was submitted.
-/

namespace CyclicDma

/-- The command that starts the program in the slab of a channel. -/
def Setup.launch (setup : Setup) (channel : Nat) : Command :=
  .go channel (setup.slabAddress channel) setup.device.nonsecure

namespace Controller

variable {before middle after controller : Controller} {channel : Nat} {setup : Setup}
variable {command : Command} {world : World}

/-! ## Programs that are kept -/

/-- The setup apart from the requests: the device, the region and where it is. -/
def setting (controller : Controller) : Option Setup :=
  controller.setup.map ({ · with requests := [] })

/-- The transfer of the channel is recorded as before, and all programs are as before and
where they were before. -/
structure KeepsProgram (channel : Nat) (before after : Controller) : Prop where
  transfer : after.transfer? channel = before.transfer? channel
  setting : after.setting = before.setting

theorem KeepsProgram.trans (hfirst : KeepsProgram channel before middle)
    (hsecond : KeepsProgram channel middle after) : KeepsProgram channel before after :=
  ⟨hsecond.transfer.trans hfirst.transfer, hsecond.setting.trans hfirst.setting⟩

theorem KeepsProgram.of_setup (hsetup : after.setup = before.setup) :
    KeepsProgram channel before after :=
  ⟨transfer?_eq_of_setup hsetup channel, by rw [Controller.setting, hsetup]; rfl⟩

/-- Only the requests are not as before. -/
theorem KeepsProgram.exists_requests (hkeeps : KeepsProgram channel before after)
    (hsetup : before.setup = some setup) :
    ∃ requests, after.setup = some { setup with requests } := by
  have hsetting : after.setting = some { setup with requests := [] } := by
    rw [hkeeps.setting, Controller.setting, hsetup]
    rfl
  obtain ⟨later, hlater, hsame⟩ := Option.map_eq_some_iff.mp hsetting
  refine ⟨later.requests, hlater.trans (congrArg some ?_)⟩
  cases later
  cases hsame
  rfl

theorem ThreadStep.keepsProgram (hstep : ThreadStep before after) (channel : Nat) :
    KeepsProgram channel before after := by
  cases hstep with
  | aside haside => exact .of_setup haside.setup
  | interrupt => exact .of_setup (onInterrupt_frame before).1
  | setAborted => exact .of_setup rfl
  | setRunning running other =>
      refine ⟨transfer?_setRunning running other channel before, ?_⟩
      rw [setting, Controller.setRunning, updateRequest, Option.map_map]
      rfl
  | launch => exact .of_setup (issue_frame ..).1

/-- Driving threads keeps the program of every channel, whatever the world does. -/
theorem ThreadSteps.keepsProgram (hsteps : ThreadSteps before after) (channel : Nat) :
    KeepsProgram channel before after := by
  induction hsteps with
  | refl => exact .of_setup rfl
  | tail _ hstep ih => exact ih.trans (hstep.keepsProgram channel)

/-! ## Launches at a slab -/

/-- The channel is launched once, and this is the last command that drives it. -/
structure LaunchesWith (command : Command) (channel : Nat) (before after : Controller) :
    Prop where
  launches : after.launches channel = before.launches channel + 1
  command : after.lastCommand? channel = some command

theorem LaunchesWith.of_same (hsame : LaunchesNone channel before middle)
    (hlaunches : LaunchesWith command channel middle after) :
    LaunchesWith command channel before after :=
  ⟨hsame ▸ hlaunches.launches, hlaunches.command⟩

theorem launchesWith_started (setup : Setup) (channel : Nat) (controller : Controller) :
    LaunchesWith (setup.launch channel) channel controller
      (((controller.issue (.channel channel)
        (.go channel (setup.slabAddress channel) setup.device.nonsecure)).setRunning true
          channel).log (.started (.channel channel) (setup.slabAddress channel))) where
  launches := ((aside_log ..).launches channel).trans (launches_issue_go ..)
  command := by
    have hstands := congrFun (standings_started channel (setup.slabAddress channel)
      setup.device.nonsecure controller) channel
    rw [Function.update_self] at hstands
    exact congrArg Standing.command hstands

/-- A channel is launched with a command, or not at all. -/
def LaunchesAtMost (command : Command) (channel : Nat) (before : Controller)
    (outcome : Except DmaError Unit × Controller) : Prop :=
  LaunchesNone channel before outcome.2 ∨
    outcome.1 = .ok () ∧ LaunchesWith command channel before outcome.2

theorem LaunchesAtMost.of_same {outcome : Except DmaError Unit × Controller}
    (hsame : LaunchesNone channel before middle)
    (hlaunches : LaunchesAtMost command channel middle outcome) :
    LaunchesAtMost command channel before outcome := by
  rcases hlaunches with hnone | ⟨hok, hlaunched⟩
  · exact .inl (hnone.trans hsame)
  · exact .inr ⟨hok, hlaunched.of_same hsame⟩

theorem launchesAtMost_trigger (world : World) (channel : Nat)
    (hsetup : controller.setup = some setup) :
    LaunchesAtMost (setup.launch channel) channel controller
      ((trigger world channel).perform controller) := by
  have htriggers := triggers_trigger world channel controller
  generalize (trigger world channel).perform controller = outcome at htriggers ⊢
  cases htriggers with
  | leave | refuse => exact .inl rfl
  | launch hlaunched _ _ hwaited =>
      cases hsetup.symm.trans hlaunched
      exact .inr ⟨rfl, (launchesWith_started ..).of_same (launchesNone_waited hwaited)⟩
  | drop _ _ _ hwaited =>
      refine .inl (((aside_maskEvent ..).launches channel).trans ?_)
      exact ((aside_log ..).launches channel).trans (launchesNone_waited hwaited)

theorem launchesAtMost_startThread (world : World) (channel : Nat)
    (hsetup : controller.setup = some setup) :
    LaunchesAtMost (setup.launch channel) channel controller
      ((startThread world channel).perform controller) := by
  have hstarts := startsThread_startThread world channel controller
  generalize (startThread world channel).perform controller = outcome at hstarts ⊢
  have hsettled : LaunchesNone channel controller
      ((settle world channel (controller.channelState channel)).perform controller).2 :=
    (stopping_launchesNone (.channel channel) channel).settle world _ controller
  have hsteps : ThreadSteps controller
      ((settle world channel (controller.channelState channel)).perform controller).2 :=
    follows_settle world channel _ controller
  cases hstarts with
  | leave => exact .inl rfl
  | refuse => exact .inl ((aside_log ..).launches channel)
  | stick hsettle =>
      rw [hsettle] at hsettled
      exact .inl hsettled
  | trigger hsettle htrigger =>
      rw [hsettle] at hsettled hsteps
      -- settling a channel may only change its request
      obtain ⟨requests, hkept⟩ := (hsteps.keepsProgram channel).exists_requests hsetup
      have hlaunches := launchesAtMost_trigger world channel hkept
      rw [htrigger] at hlaunches
      exact LaunchesAtMost.of_same hsettled hlaunches

/-! ## Channels that are ready -/

theorem wasStarted_noteAbort (channel : Nat) (controller : Controller) :
    (controller.noteAbort channel).wasStarted channel = controller.isRunning channel := by
  unfold noteAbort isRunning
  cases (controller.notificationsOf channel).aborted with
  | true =>
      rw [if_pos rfl, wasStarted_setRunning, Bool.and_false, Bool.not_true, Bool.and_false]
  | false => rw [if_neg Bool.false_ne_true, Bool.not_false, Bool.and_true]

/-- An abort that is taken note of does not change whether the channel runs. -/
theorem isRunning_noteAbort (channel : Nat) (controller : Controller) :
    (controller.noteAbort channel).isRunning channel = controller.isRunning channel := by
  rw [isRunning, aborted_noteAbort, wasStarted_noteAbort, Bool.not_false, Bool.and_true]

theorem waitFor_of_condition {condition : Controller → Bool}
    (hholds : condition controller = true) (world : World) (microseconds : Nat) :
    waitFor world condition microseconds controller = (true, controller) := by
  cases microseconds with
  | zero => exact Prod.ext hholds rfl
  | succ microseconds => exact if_pos hholds

/-- The channel stands still and has a transfer, and a command can be handed over at
once. -/
structure Ready (channel : Nat) (controller : Controller) : Prop where
  state : controller.channelState channel = .stopped
  running : controller.isRunning channel = false
  transfer : (controller.transfer? channel).isSome = true
  idle : controller.isDebugBusy = false

theorem launchesWith_of_trigger (world : World) (hidle : controller.Idle channel)
    (hsome : (controller.transfer? channel).isSome = true)
    (hdebug : controller.isDebugBusy = false) (hsetup : controller.setup = some setup) :
    ((trigger world channel).perform controller).1 = .ok () ∧
      LaunchesWith (setup.launch channel) channel controller
        ((trigger world channel).perform controller).2 := by
  -- enabling an event does not touch the debug interface
  have hwait : waitFor world (!·.isDebugBusy) waitBound (controller.unmaskEvent channel) =
      (true, controller.unmaskEvent channel) := by
    refine waitFor_of_condition ?_ world waitBound
    have hread : (controller.unmaskEvent channel).read .debugStatus =
        controller.read .debugStatus := Registers.read_write_of_ne _ _ (by decide)
    rw [isDebugBusy, hread]
    exact (congrArg not hdebug).trans Bool.not_false
  have htriggers := triggers_trigger world channel controller
  generalize (trigger world channel).perform controller = outcome at htriggers ⊢
  cases htriggers with
  | leave hbusy => simp [hidle.state, hidle.started] at hbusy
  | refuse hnone => rw [hnone] at hsome; cases hsome
  | launch hlaunched _ _ hwaited =>
      cases hsetup.symm.trans hlaunched
      exact ⟨rfl, (launchesWith_started ..).of_same (launchesNone_waited hwaited)⟩
  | drop _ _ _ hwaited => cases hwait.symm.trans hwaited

/-! ## Starting -/

/-- What a start comes to that may launch the channel with a command. It keeps the
program, succeeds if it launches the channel, and launches a channel that is ready. -/
structure StartsWith (command : Command) (channel : Nat) (before : Controller)
    (outcome : Except DmaError Unit × Controller) : Prop where
  program : KeepsProgram channel before outcome.2
  launches : LaunchesAtMost command channel before outcome
  ready (hready : before.Ready channel) :
    outcome.1 = .ok () ∧ LaunchesWith command channel before outcome.2

/-- A start launches the program in the slab of the channel, if anything. -/
theorem startsWith_start (world : World) (channel : Nat)
    (hsetup : controller.setup = some setup) :
    StartsWith (setup.launch channel) channel controller
      ((start world channel).perform controller) := by
  have hnoted := (threadSteps_noteAbort channel controller).keepsProgram channel
  obtain ⟨requests, hkept⟩ := hnoted.exists_requests hsetup
  refine ⟨(follows_start world channel controller).keepsProgram channel, ?_, fun hready => ?_⟩
  · have hlaunches := launchesAtMost_startThread world channel hkept
    rw [perform_start]
    exact .of_same (launches_noteAbort ..) hlaunches
  · have hidle : (controller.noteAbort channel).Idle channel :=
      ⟨(channelState_noteAbort ..).trans hready.state,
        (wasStarted_noteAbort ..).trans hready.running⟩
    have hdebug : (controller.noteAbort channel).isDebugBusy = false := by
      rw [← hready.idle]
      unfold noteAbort
      split <;> rfl
    rw [perform_start, hidle.perform_startThread]
    obtain ⟨hok, hlaunched⟩ := launchesWith_of_trigger world hidle
      (hnoted.transfer ▸ hready.transfer) hdebug hkept
    exact ⟨hok, hlaunched.of_same (launches_noteAbort ..)⟩

end Controller

end CyclicDma
