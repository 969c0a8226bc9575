import CyclicDma.Proofs.Controller.Settling
import CyclicDma.Proofs.Controller.Starting

/-! # Starting recovers safely

A channel may be in any state when it is to be started, and in any other one whenever
its driver has let time pass. It is only killed once it has faulted, and only launched
once it has stopped, with its event enabled before. Whoever starts it learns whether it
runs.
-/

namespace CyclicDma.Controller

variable {before middle after calmed settled controller : Controller} {channel : Nat}
variable {world : World} {outcome : Except DmaError Unit × Controller}

/-! ## Killing -/

/-- A channel is killed once at most. If it is, the channel was read to be faulting before, on
entry or when it had been waited for, and the kill is handed over when the debug interface is
first found idle. -/
inductive KillsFaulting (world : World) (channel : Nat) (before after : Controller) : Prop
  | none (hlater : GoesOn Event.IsKill before after)
  | once {faulted : Controller} {microseconds : Nat}
      (hdecides : Decides world (.channel channel) before (.channel .faulting) faulted)
      (hbound : microseconds ≤ waitBound)
      (hidle : FoundAfter world (!·.isDebugBusy) faulted microseconds)
      (hearlier : GoesOn Event.IsKill before (later world microseconds faulted))
      (hlater : GoesOn Event.IsKill
        ((later world microseconds faulted).issue (.channel channel) .kill) after)

theorem KillsFaulting.later (hkills : KillsFaulting world channel before middle)
    (hlater : GoesOn Event.IsKill middle after) : KillsFaulting world channel before after := by
  cases hkills with
  | none hearlier => exact .none (hearlier.trans hlater)
  | once hdecides hbound hidle hearlier hkilled =>
      exact .once hdecides hbound hidle hearlier (hkilled.trans hlater)

/-! ## Settling -/

theorem idles_later (hworld : world.Causes Disturbance.IsChange) (microseconds : Nat)
    (controller : Controller) : Idles controller (later world microseconds controller) :=
  (elapses_later world microseconds controller).idles hworld

section

variable (hworld : world.Causes Disturbance.IsChange)

include hworld

/-- The driver gives up in the end. -/
theorem uncommanded_stuck (microseconds : Nat) (message : LogMessage) (controller : Controller) :
    GoesOn Event.IsCommand controller
      ((later world microseconds controller).log message) :=
  (idles_later hworld microseconds controller).uncommanded.trans (uncommanded_log ..)

theorem Decides.uncommanded {state : ThreadState} {decided : Controller}
    (hdecides : Decides world (.channel channel) before state decided) :
    GoesOn Event.IsCommand before decided :=
  (hdecides.elapses.idles hworld).uncommanded

theorem Calms.kills (hcalms : Calms world channel before calmed) :
    KillsFaulting world channel before calmed := by
  cases hcalms with
  | leave => exact .none (.refl _ before)
  | @kill faulted microseconds hdecides hbound hidle =>
      have hwaited := (idles_later hworld microseconds faulted).uncommanded
      refine .once hdecides hbound hidle ((hdecides.uncommanded hworld).trans hwaited).killless
        (GoesOn.killless ?_)
      exact (uncommanded_silence ..).trans ((uncommanded_log ..).trans (uncommanded_markStopped ..))
  | @spare dying microseconds hentry hdecides =>
      have hwaited := (idles_later hworld microseconds dying).uncommanded
      refine .none (GoesOn.killless ((hdecides.uncommanded hworld).trans ?_))
      exact hwaited.trans (uncommanded_markStopped ..)

theorem Settling.kills (hsettling : Settling world channel before outcome) :
    KillsFaulting world channel before outcome.2 := by
  cases hsettling with
  | @settle calmed microseconds hcalms =>
      have hwaited := (idles_later hworld microseconds calmed).uncommanded
      exact (hcalms.kills hworld).later hwaited.killless
  | @linger calmed message hcalms =>
      have hstuck := uncommanded_stuck hworld waitBound message calmed
      dsimp only
      exact (hcalms.kills hworld).later hstuck.killless
  | @undecided message =>
      have hstuck := uncommanded_stuck hworld waitBound message before
      dsimp only
      exact .none hstuck.killless
  | @busy decided message hdecides | @dying decided message _ hdecides =>
      have hstuck := uncommanded_stuck hworld waitBound message decided
      dsimp only
      exact .none ((hdecides.uncommanded hworld).trans hstuck).killless

end

/-! ## Launching -/

/-- The channel is launched, after it was killed at most once, and nothing was launched
before. -/
inductive LaunchesSafely (world : World) (channel : Nat) (before after : Controller) : Prop
  | intro {moment : Controller} (hlaunches : LaunchesAt world channel before moment after)
      (hkills : KillsFaulting world channel before moment)
      (hnone : GoesOn Event.IsLaunch before moment)

/-- A channel that is launched was not left alone. -/
theorem LaunchesSafely.not_launchless (hlaunches : LaunchesSafely world channel before after) :
    ¬ GoesOn Event.IsLaunch before after := by
  intro hnone
  cases hlaunches with
  | @intro moment hlaunches _ hearlier =>
      obtain ⟨setup, transfer, -, -, hafter⟩ := hlaunches.ready
      have hlaunched : after.launches channel = before.launches channel + 1 := by
        rw [hafter, (aside_log ..).launches, ← hearlier.launches channel]
        exact launches_issue_go ..
      rw [hnone.launches channel] at hlaunched
      exact absurd hlaunched (Nat.ne_of_lt (Nat.lt_succ_self _))

/-- What starting a channel comes to that is neither active nor unable to start. -/
structure StartsSafely (world : World) (channel : Nat) (before : Controller)
    (outcome : Except DmaError Unit × Controller) : Prop where
  kills : KillsFaulting world channel before outcome.2
  launches : GoesOn Event.IsLaunch before outcome.2 ∨
    LaunchesSafely world channel before outcome.2
  succeeded : outcome.1 = .ok () → outcome.2.wasStarted channel = true ∧
    (LaunchesSafely world channel before outcome.2 ↔
      before.channelState channel = .faulting ∨ before.channelState channel = .faultCompleting ∨
        before.wasStarted channel = false)
  failed (error : DmaError) : outcome.1 = .error error →
    GoesOn Event.IsLaunch before outcome.2 ∧
      (outcome.2.wasStarted channel = true → before.wasStarted channel = true)

theorem idles_waitFor (hworld : world.Causes Disturbance.IsChange) (condition : Controller → Bool)
    (bound : Nat) (controller : Controller) :
    Idles controller (waitFor world condition bound controller).2 := by
  rcases waitFor_cases world condition bound controller with
    ⟨microseconds, -, -, hwait⟩ | ⟨-, hwait⟩
  · rw [hwait]
    exact idles_later hworld microseconds controller
  · rw [hwait]
    exact idles_later hworld bound controller

section

variable {setup : Setup} {waited : Controller}
variable (hworld : world.Causes Disturbance.IsChange)
variable (hsettling : Settling world channel before (.ok (), settled))

include hworld hsettling

/-- A channel that is still taken for running did not fault, and is left alone. -/
theorem startsSafely_left (hnone : GoesOn Event.IsLaunch before settled)
    (hrunning : settled.wasStarted channel = true) :
    StartsSafely world channel before (.ok (), settled) := by
  refine ⟨hsettling.kills hworld, .inl hnone, fun _ => ⟨hrunning, ?_⟩, nofun⟩
  refine ⟨fun hlaunches => absurd hnone hlaunches.not_launchless, fun hcause => ?_⟩
  rw [hsettling.started, Bool.and_eq_true] at hrunning
  obtain ⟨hbefore, hfault⟩ := hrunning
  rcases hcause with hstate | hstate | hidle
  · rw [hstate] at hfault
    cases hfault
  · rw [hstate] at hfault
    cases hfault
  · rw [hbefore] at hidle
    cases hidle

/-- The event is enabled, and once the debug interface is idle the channel is launched. -/
theorem startsSafely_launched (hchannel : channel < 32) (hsetup : settled.setup = some setup)
    (hidle : settled.wasStarted channel = false)
    (hsome : (settled.transfer? channel).isSome = true)
    (hwaited : waitFor world (!·.isDebugBusy) waitBound (settled.unmaskEvent channel) =
      (true, waited)) :
    StartsSafely world channel before
      (.ok (), ((waited.issue (.channel channel)
        (.go channel (setup.slabAddress channel) setup.device.nonsecure)).setRunning true
          channel).log (.started (.channel channel) (setup.slabAddress channel))) := by
  have hidles := idles_waitFor hworld (!·.isDebugBusy) waitBound (settled.unmaskEvent channel)
  rw [hwaited] at hidles
  have hlaunches := launchesAt_of_waited hchannel hsettling hidle hsome hsetup hwaited
  have hunmasked : GoesOn Event.IsCommand settled (settled.unmaskEvent channel) :=
    uncommanded_write ..
  have hkills : KillsFaulting world channel before waited :=
    (hsettling.kills hworld).later (hunmasked.trans hidles.uncommanded).killless
  have hsafely : LaunchesSafely world channel before _ :=
    .intro hlaunches hkills hlaunches.launchless
  refine ⟨hkills.later ?_, .inr hsafely, fun _ => ⟨?_, fun _ => ?_, fun _ => hsafely⟩, nofun⟩
  · exact (killless_issue_go ..).trans (uncommanded_log ..).killless
  · have hkept : (waited.issue (.channel channel)
        (.go channel (setup.slabAddress channel) setup.device.nonsecure)).setup =
          settled.setup := (issue_frame ..).1.trans hidles.setup
    rw [wasStarted_of_setup (aside_log ..).setup, wasStarted_setRunning, request?, hkept,
      ← request?, Bool.and_true]
    rw [transfer?] at hsome
    cases hrequest : settled.request? channel with
    | none => rw [hrequest] at hsome; cases hsome
    | some request => rfl
  · have hstarted := hsettling.started
    rw [hidle] at hstarted
    cases hstate : before.channelState channel with
    | faulting => exact .inl rfl
    | faultCompleting => exact .inr (.inl rfl)
    | _ =>
        rw [hstate] at hstarted
        exact .inr (.inr ((Bool.and_true _).symm.trans hstarted.symm))

/-- The debug interface stayed busy, so the event is masked again. -/
theorem startsSafely_dropped (hnone : GoesOn Event.IsLaunch before settled) (error : DmaError)
    (message : LogMessage)
    (hwaited : waitFor world (!·.isDebugBusy) waitBound (settled.unmaskEvent channel) =
      (false, waited)) :
    StartsSafely world channel before
      (.error error, (waited.log message).maskEvent channel) := by
  have hidles := idles_waitFor hworld (!·.isDebugBusy) waitBound (settled.unmaskEvent channel)
  rw [hwaited] at hidles
  have haside : Aside settled ((waited.log message).maskEvent channel) :=
    (aside_unmaskEvent channel settled).trans (hidles.toAside.trans
      ((aside_log ..).trans (aside_maskEvent ..)))
  have hgoes : GoesOn Event.IsCommand settled ((waited.log message).maskEvent channel) :=
    (uncommanded_write ..).trans (hidles.uncommanded.trans
      ((uncommanded_log ..).trans (uncommanded_write ..)))
  have hnone := hnone.trans haside.launchless
  refine ⟨(hsettling.kills hworld).later hgoes.killless, .inl hnone, nofun,
    fun _ _ => ⟨hnone, fun hlast => hsettling.wasStarted ?_⟩⟩
  exact (wasStarted_of_setup haside.setup channel).symm.trans hlast

end

/-- A channel that was settled is launched, unless it is taken for running, has no
transfer or the debug interface stays busy. -/
theorem startsSafely_trigger (hworld : world.Causes Disturbance.IsChange) (hchannel : channel < 32)
    (hsettling : Settling world channel before (.ok (), settled)) :
    StartsSafely world channel before ((trigger world channel).perform settled) := by
  have hnone : GoesOn Event.IsLaunch before settled :=
    ((stopping_launchless (.channel channel)).inWorld world).settling hsettling
  have htriggers := triggers_trigger world channel settled
  generalize (trigger world channel).perform settled = outcome at htriggers ⊢
  cases htriggers with
  | leave hbusy =>
      exact startsSafely_left hworld hsettling hnone
        (hbusy.resolve_left (absurd hsettling.stopped))
  | refuse =>
      have hstarted := hsettling.wasStarted
      have hkills := hsettling.kills hworld
      exact ⟨hkills, .inl hnone, nofun, fun _ _ => ⟨hnone, hstarted⟩⟩
  | launch hsetup hidle hsome hwaited =>
      exact startsSafely_launched hworld hsettling hchannel hsetup hidle hsome hwaited
  | drop hsetup hidle hsome hwaited =>
      exact startsSafely_dropped hworld hsettling hnone _ _ hwaited

/-! ## Starting -/

/-- A channel that waits for an event or is in no known state is not started. -/
theorem startThread_of_unable
    (hunable : before.channelState channel = .waitingForEvent ∨
      before.channelState channel = .invalid) :
    (startThread world channel).perform before =
      (.error (.unsupportedState (before.channelState channel)),
        before.log (.cannotStart (.channel channel) (before.channelState channel))) := by
  rw [startThread, Attempt.perform_bind, Attempt.perform_get]
  dsimp only
  rw [if_neg (by rcases hunable with hstate | hstate <;> rw [hstate] <;> decide),
    if_pos (by simpa using hunable)]
  rfl

/-- Any other channel that is not active is settled before it is launched. -/
theorem startThread_of_able (hactive : (before.channelState channel).isActive = false)
    (hwaiting : before.channelState channel ≠ .waitingForEvent)
    (hinvalid : before.channelState channel ≠ .invalid) :
    (startThread world channel).perform before =
      Attempt.perform (do
        settle world channel (before.channelState channel)
        trigger world channel) before := by
  rw [startThread, Attempt.perform_bind, Attempt.perform_get]
  dsimp only
  rw [if_neg (by simp [hactive]), if_neg (by simp [hwaiting, hinvalid])]

/-- A channel is settled, and launched if that succeeds. -/
theorem startsSafely_settle (hworld : world.Causes Disturbance.IsChange) (hchannel : channel < 32)
    (before : Controller) :
    StartsSafely world channel before
      (Attempt.perform (do
        settle world channel (before.channelState channel)
        trigger world channel) before) := by
  have hsettling := settling_settle world channel before
  have hnone : GoesOn Event.IsLaunch before
      ((settle world channel (before.channelState channel)).perform before).2 :=
    (stopping_launchless (.channel channel)).settle world _ before
  cases hsettle : (settle world channel (before.channelState channel)).perform before with
  | mk result settled =>
      rw [hsettle] at hsettling hnone
      cases result with
      | ok value =>
          rw [Attempt.perform_bind_of_ok hsettle]
          exact startsSafely_trigger hworld hchannel hsettling
      | error error =>
          rw [Attempt.perform_bind_of_error hsettle]
          exact ⟨hsettling.kills hworld, .inl hnone, nofun,
            fun _ _ => ⟨hnone, hsettling.wasStarted⟩⟩

/-- A channel that is active is left alone, also if it was not started. One that waits for
an event or is in no known state is not started. Any other channel is started safely: it
is killed at most once, after it was found faulting, and launched at most once, after it
was found stopped, with its event enabled before. -/
theorem startThread_safe (hworld : world.Causes Disturbance.IsChange)
    (hchannel : channel < Register.maxChannels) (before : Controller) :
    ((before.channelState channel).isActive = true →
      (startThread world channel).perform before = (.ok (), before)) ∧
    (before.channelState channel = .waitingForEvent ∨ before.channelState channel = .invalid →
      (startThread world channel).perform before =
        (.error (.unsupportedState (before.channelState channel)),
          before.log (.cannotStart (.channel channel) (before.channelState channel)))) ∧
    ((before.channelState channel).isActive = false →
      before.channelState channel ≠ .waitingForEvent → before.channelState channel ≠ .invalid →
      StartsSafely world channel before ((startThread world channel).perform before)) := by
  refine ⟨startThread_of_active, startThread_of_unable, fun hactive hwaiting hinvalid => ?_⟩
  rw [startThread_of_able hactive hwaiting hinvalid]
  exact startsSafely_settle hworld (Nat.lt_of_lt_of_le hchannel (by decide)) before

/-- The fault is there after a while, and the channel has stopped after another one. -/
def failingWorld : World
  | 3 => [.change (.status 0) 0xF, .change .debugStatus 1, .change .interruptEnable 6]
  | 5 => [.change .debugStatus 0]
  | 8 => [.change (.status 0) 0]
  | _ => []

theorem causes_failing : failingWorld.Causes Disturbance.IsChange := by
  intro time
  unfold failingWorld
  split <;> simp [Disturbance.IsChange]

/-- The channel is killed once and launched once, and only its own event is enabled on
the way. -/
theorem startThread_safe_failing :
    ((startThread failingWorld 0).perform failingController).1 = .ok () ∧
      LaunchesSafely failingWorld 0 failingController
        ((startThread failingWorld 0).perform failingController).2 ∧
      ((startThread failingWorld 0).perform failingController).2.wasStarted 0 = true ∧
      ((startThread failingWorld 0).perform failingController).2.kills 0 = 1 ∧
      ((startThread failingWorld 0).perform failingController).2.read .interruptEnable = 7 := by
  have hok : ((startThread failingWorld 0).perform failingController).1 = .ok () := by
    decide +kernel
  have hchannel : 0 < Register.maxChannels := by decide
  obtain ⟨-, -, hsafe⟩ := startThread_safe causes_failing hchannel failingController
  obtain ⟨hstarted, hlaunched⟩ :=
    (hsafe (by decide +kernel) (by decide +kernel) (by decide +kernel)).succeeded hok
  refine ⟨hok, hlaunched.mpr (.inr (.inl (by decide +kernel))), hstarted, ?_, ?_⟩
  all_goals decide +kernel

end CyclicDma.Controller
