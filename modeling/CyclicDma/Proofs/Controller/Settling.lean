import CyclicDma.Proofs.Controller.Commands
import CyclicDma.Proofs.Controller.Driving
import CyclicDma.Proofs.Controller.Halting

/-! # How a channel comes to be launched

A channel is brought to a stop before it is launched. Then its event is enabled, and the
debug interface is waited for. Each wait begins in the state that the one before it left, so
it is known exactly what is read, done and waited for on the way, whatever the world does in
the meantime.
-/

namespace CyclicDma.Controller

variable {before after calmed settled faulted controller : Controller} {channel : Nat}
variable {world : World} {thread : ThreadId} {outcome : Except DmaError Unit × Controller}

/-! ## Settling -/

/-- The channel has stopped. -/
def hasStopped (channel : Nat) (controller : Controller) : Bool :=
  controller.channelState channel = .stopped

/-- What is done about a fault before the channel is waited for. A channel that is found
faulting is killed when the debug interface is first found idle; one that is found being
killed is waited for. Either is not taken for running any more. -/
inductive Calms (world : World) (channel : Nat) (before : Controller) : Controller → Prop
  | leave (hentry : (before.channelState channel).isFault = false) :
      Calms world channel before before
  | kill {faulted : Controller} {microseconds : Nat}
      (hdecides : Decides world (.channel channel) before (.channel .faulting) faulted)
      (hbound : microseconds ≤ waitBound)
      (hidle : FoundAfter world (!·.isDebugBusy) faulted microseconds) :
      Calms world channel before
        (((((later world microseconds faulted).issue (.channel channel) .kill).silence
          (.channel channel)).log (.killed (.channel channel) (.channel .faulting))).markStopped
            (.channel channel))
  | spare {dying : Controller} {microseconds : Nat}
      (hentry : before.channelState channel = .faultCompleting)
      (hdecides : Decides world (.channel channel) before (.channel .killing) dying)
      (hbound : microseconds ≤ waitBound)
      (hstopped : FoundAfter world (hasStopped channel) dying microseconds) :
      Calms world channel before
        ((later world microseconds dying).markStopped (.channel channel))

/-- The ways in which settling a channel ends. It succeeds when the channel is first found
stopped. -/
inductive Settling (world : World) (channel : Nat) (before : Controller) :
    Except DmaError Unit × Controller → Prop
  | settle {calmed : Controller} {microseconds : Nat} (hcalms : Calms world channel before calmed)
      (hbound : microseconds ≤ waitBound)
      (hstopped : FoundAfter world (hasStopped channel) calmed microseconds) :
      Settling world channel before (.ok (), later world microseconds calmed)
  | linger {calmed : Controller} {message : LogMessage}
      (hcalms : Calms world channel before calmed)
      (hnever : NeverFound world (hasStopped channel) calmed) :
      Settling world channel before (.error .timeout, (later world waitBound calmed).log message)
  | undecided {message : LogMessage} (hentry : before.channelState channel = .faultCompleting)
      (hnever : NeverFound world (hasFaulted channel) before) :
      Settling world channel before (.error .timeout, (later world waitBound before).log message)
  | busy {faulted : Controller} {message : LogMessage}
      (hdecides : Decides world (.channel channel) before (.channel .faulting) faulted)
      (hnever : NeverFound world (!·.isDebugBusy) faulted) :
      Settling world channel before (.error .timeout, (later world waitBound faulted).log message)
  | dying {dying : Controller} {message : LogMessage}
      (hentry : before.channelState channel = .faultCompleting)
      (hdecides : Decides world (.channel channel) before (.channel .killing) dying)
      (hnever : NeverFound world (hasStopped channel) dying) :
      Settling world channel before (.error .timeout, (later world waitBound dying).log message)

theorem Decides.threadState {state : ThreadState} {decided : Controller}
    (hdecides : Decides world thread before state decided) :
    decided.threadState thread = state := by
  cases hdecides with
  | entry | waited => rfl

theorem awaitStopped_found (world : World) (channel : Nat) (controller : Controller) :
    (∃ microseconds ≤ waitBound, FoundAfter world (hasStopped channel) controller microseconds ∧
      (discard (awaitState world channel (· = .stopped))).perform controller =
        (.ok (), later world microseconds controller)) ∨
    NeverFound world (hasStopped channel) controller ∧
      ∃ message, (discard (awaitState world channel (· = .stopped))).perform controller =
        (.error .timeout, (later world waitBound controller).log message) := by
  rcases awaitState_found world channel (· = .stopped) controller with
    ⟨microseconds, hbound, hfound, hawait⟩ | ⟨hnever, message, hawait⟩
  · exact .inl ⟨microseconds, hbound, hfound, Attempt.perform_bind_of_ok hawait _⟩
  · exact .inr ⟨hnever, message, Attempt.perform_bind_of_error hawait _⟩

/-- In the end the channel is waited for until it has stopped. -/
theorem settling_awaitStopped (hcalms : Calms world channel before calmed) :
    Settling world channel before
      ((discard (awaitState world channel (· = .stopped))).perform calmed) := by
  rcases awaitStopped_found world channel calmed with
    ⟨microseconds, hbound, hstopped, hawait⟩ | ⟨hnever, message, hawait⟩
  · rw [hawait]
    exact .settle hcalms hbound hstopped
  · rw [hawait]
    exact .linger hcalms hnever

/-- A channel that was found faulting is killed, and then waited for. -/
theorem settling_kill
    (hdecides : Decides world (.channel channel) before (.channel .faulting) faulted) :
    Settling world channel before
      (Attempt.perform (do
        stopThread world (.channel channel)
        discard (awaitState world channel (· = .stopped))) faulted) := by
  have hfaulting : faulted.channelState channel = .faulting :=
    ThreadState.channel.inj hdecides.threadState
  -- the state is read again when the kill is decided on, and nothing happened in between
  have hagain : ∀ {state decided}, Decides world (.channel channel) faulted state decided →
      state = .channel .faulting ∧ decided = faulted := by
    intro state decided hlater
    cases hlater with
    | entry => exact ⟨hdecides.threadState, rfl⟩
    | waited hentry =>
        rw [hfaulting] at hentry
        cases hentry
  have hhalts := halts_stopThread world (.channel channel) faulted
  cases hstop : (stopThread world (.channel channel)).perform faulted with
  | mk result stopped =>
      rw [hstop] at hhalts
      cases hhalts with
      | spare hlater hstopping =>
          obtain ⟨rfl, -⟩ := hagain hlater
          cases hstopping
      | kill hlater _ hbound hidle =>
          obtain ⟨rfl, rfl⟩ := hagain hlater
          rw [Attempt.perform_bind_of_ok hstop]
          exact settling_awaitStopped (.kill hdecides hbound hidle)
      | undecided hthread hentry =>
          cases hthread
          rw [hfaulting] at hentry
          cases hentry
      | busy hlater _ hnever =>
          obtain ⟨-, rfl⟩ := hagain hlater
          rw [Attempt.perform_bind_of_error hstop]
          exact .busy hdecides hnever

/-- A channel that is found being killed is waited for, and not killed again. -/
theorem settling_spare {dying : Controller}
    (hentry : before.channelState channel = .faultCompleting)
    (hdecides : Decides world (.channel channel) before (.channel .killing) dying) :
    Settling world channel before
      (Attempt.perform (do
        discard (awaitState world channel (· = .stopped))
        stopThread world (.channel channel)
        discard (awaitState world channel (· = .stopped))) dying) := by
  rcases awaitStopped_found world channel dying with
    ⟨microseconds, hbound, hstopped, hawait⟩ | ⟨hnever, message, hawait⟩
  · have hstate := of_decide_eq_true hstopped.holds
    rw [Attempt.perform_bind_of_ok hawait, perform_spare world hstate]
    exact .settle (.spare hentry hdecides hbound hstopped) (Nat.zero_le _)
      ⟨hstopped.holds, by exact nofun⟩
  · rw [Attempt.perform_bind_of_error hawait]
    exact .dying hentry hdecides hnever

theorem settling_settle (world : World) (channel : Nat) (before : Controller) :
    Settling world channel before
      ((settle world channel (before.channelState channel)).perform before) := by
  cases hstate : before.channelState channel with
  | stopped =>
      have hstopped : hasStopped channel before = true := decide_eq_true hstate
      exact .settle (.leave (by rw [hstate]; rfl)) (Nat.zero_le _) ⟨hstopped, by exact nofun⟩
  | faulting =>
      have hdecides : Decides world (.channel channel) before
          (before.threadState (.channel channel)) before :=
        .entry (by rw [threadState, hstate]; exact nofun)
      rw [threadState, hstate] at hdecides
      exact settling_kill hdecides
  | faultCompleting =>
      rcases awaitState_found world channel (fun state => state = .faulting || state = .killing)
          before with ⟨microseconds, hbound, hfound, hawait⟩ | ⟨hnever, message, hawait⟩
      · have hsettle : (settle world channel .faultCompleting).perform before = _ :=
          Attempt.perform_bind_of_ok hawait _
        have hdecides : Decides world (.channel channel) before _ _ :=
          .waited hstate hbound hfound
        rw [hsettle]
        by_cases hkilling : (later world microseconds before).channelState channel = .killing
        · rw [if_pos hkilling]
          rw [hkilling] at hdecides
          exact settling_spare hstate hdecides
        · have hfaulting : (later world microseconds before).channelState channel = .faulting := by
            simpa [hkilling] using hfound.holds
          rw [if_neg hkilling]
          rw [hfaulting] at hdecides
          exact settling_kill hdecides
      · have hsettle : (settle world channel .faultCompleting).perform before = _ :=
          Attempt.perform_bind_of_error hawait _
        rw [hsettle]
        exact .undecided hstate hnever
  | _ => exact settling_awaitStopped (.leave (by rw [hstate]; rfl))

/-! ## Who is taken for running -/

theorem wasStarted_later (world : World) (microseconds channel : Nat) (controller : Controller) :
    (later world microseconds controller).wasStarted channel = controller.wasStarted channel :=
  wasStarted_of_setup (setup_later ..) channel

/-- The driver gives up in the end. -/
theorem wasStarted_stuck (world : World) (microseconds channel : Nat) (message : LogMessage)
    (controller : Controller) :
    ((later world microseconds controller).log message).wasStarted channel =
      controller.wasStarted channel :=
  (wasStarted_of_setup (aside_log ..).setup channel).trans (wasStarted_later ..)

theorem Decides.wasStarted {state : ThreadState} {decided : Controller}
    (hdecides : Decides world thread before state decided) (channel : Nat) :
    decided.wasStarted channel = before.wasStarted channel := by
  cases hdecides with
  | entry => rfl
  | waited => exact wasStarted_later ..

theorem Decides.isFault (hdecides : Decides world (.channel channel) before (.channel .faulting)
    faulted) : (before.channelState channel).isFault = true := by
  generalize hstate : ThreadState.channel .faulting = state at hdecides
  cases hdecides with
  | entry => rw [← ThreadState.channel.inj hstate]; rfl
  | waited hentry => rw [hentry]; rfl

/-- A channel that was faulting, or about to, is not taken for running any more. -/
theorem Calms.started (hcalms : Calms world channel before calmed) :
    calmed.wasStarted channel =
      (before.wasStarted channel && !(before.channelState channel).isFault) := by
  cases hcalms with
  | leave hentry => rw [hentry, Bool.not_false, Bool.and_true]
  | kill hdecides => rw [wasStarted_markStopped, hdecides.isFault, Bool.not_true, Bool.and_false]
  | spare hentry =>
      rw [wasStarted_markStopped, hentry]
      exact (Bool.and_false _).symm

theorem Settling.started (hsettling : Settling world channel before (.ok (), settled)) :
    settled.wasStarted channel =
      (before.wasStarted channel && !(before.channelState channel).isFault) := by
  cases hsettling with
  | settle hcalms => exact (wasStarted_later ..).trans hcalms.started

/-- Settling does not take a channel for running that was not started. -/
theorem Settling.wasStarted (hsettling : Settling world channel before outcome)
    (hstarted : outcome.2.wasStarted channel = true) : before.wasStarted channel = true := by
  have hcalmed : ∀ {calmed}, Calms world channel before calmed →
      calmed.wasStarted channel = true → before.wasStarted channel = true := by
    intro calmed hcalms hlast
    rw [hcalms.started, Bool.and_eq_true] at hlast
    exact hlast.1
  cases hsettling with
  | settle hcalms =>
      rw [wasStarted_later] at hstarted
      exact hcalmed hcalms hstarted
  | linger hcalms =>
      dsimp only at hstarted
      rw [wasStarted_stuck] at hstarted
      exact hcalmed hcalms hstarted
  | undecided =>
      dsimp only at hstarted
      rwa [wasStarted_stuck] at hstarted
  | busy hdecides | dying _ hdecides =>
      dsimp only at hstarted
      rwa [wasStarted_stuck, hdecides.wasStarted] at hstarted

/-! ## Parts -/

section

variable {relation : Controller → Controller → Prop}
variable [Std.Refl relation] [IsTrans Controller relation]

namespace StoppingIn

theorem later (hparts : StoppingIn world thread relation) (microseconds : Nat)
    (controller : Controller) :
    relation controller (Controller.later world microseconds controller) := by
  induction microseconds generalizing controller with
  | zero => exact Std.Refl.refl controller
  | succ microseconds ih => exact IsTrans.trans _ _ _ (hparts.pause controller) (ih _)

theorem decides (hparts : StoppingIn world thread relation) {state : ThreadState}
    {decided : Controller} (hdecides : Decides world thread before state decided) :
    relation before decided := by
  cases hdecides with
  | entry => exact Std.Refl.refl before
  | waited => exact hparts.later ..

variable (hparts : StoppingIn world (.channel channel) relation)

include hparts

theorem calms (hcalms : Calms world channel before calmed) : relation before calmed := by
  cases hcalms with
  | leave => exact Std.Refl.refl before
  | @kill faulted microseconds hdecides =>
      have hkill := IsTrans.trans _ _ _ (hparts.later microseconds faulted) (hparts.kill _)
      have hsilence := IsTrans.trans _ _ _ hkill (hparts.silence _)
      refine IsTrans.trans _ _ _ (hparts.decides hdecides) (IsTrans.trans _ _ _ hsilence ?_)
      exact IsTrans.trans _ _ _ (hparts.log ..) (hparts.markStopped _)
  | spare _ hdecides =>
      refine IsTrans.trans _ _ _ (hparts.decides hdecides) ?_
      exact IsTrans.trans _ _ _ (hparts.later ..) (hparts.markStopped _)

/-- What settling is made of is followed when it succeeds. -/
theorem settling (hsettling : Settling world channel before (.ok (), settled)) :
    relation before settled := by
  cases hsettling with
  | settle hcalms => exact IsTrans.trans _ _ _ (hparts.calms hcalms) (hparts.later ..)

end StoppingIn

end

/-! ## Launching -/

/-- The channel is launched at a moment. Before, it was settled: it had stopped, was not taken
for running and had a transfer. Then its event was enabled, the other ones being left as they
were, and the debug interface was waited for until it was first found idle. -/
inductive LaunchesAt (world : World) (channel : Nat) (before moment after : Controller) : Prop
  | intro {settled : Controller} {setup : Setup} {value : UInt32} {microseconds : Nat}
      (hsettling : Settling world channel before (.ok (), settled))
      (hstopped : settled.channelState channel = .stopped)
      (hidle : settled.wasStarted channel = false)
      (hsome : (settled.transfer? channel).isSome = true) (hsetup : settled.setup = some setup)
      (hothers : KeepsOthers channel (settled.read .interruptEnable) value)
      (hself : bitOf value channel = true) (hbound : microseconds ≤ waitBound)
      (hfound : FoundAfter world (!·.isDebugBusy) (settled.write .interruptEnable value)
        microseconds)
      (hmoment : moment = later world microseconds (settled.write .interruptEnable value))
      (hafter : after =
        ((moment.issue (.channel channel)
          (.go channel (setup.slabAddress channel) setup.device.nonsecure)).setRunning true
            channel).log (.started (.channel channel) (setup.slabAddress channel)))

theorem Settling.stopped (hsettling : Settling world channel before (.ok (), settled)) :
    settled.channelState channel = .stopped := by
  cases hsettling with
  | settle _ _ hstopped => exact of_decide_eq_true hstopped.holds

theorem launchesAt_of_waited {setup : Setup} {waited : Controller} (hchannel : channel < 32)
    (hsettling : Settling world channel before (.ok (), settled))
    (hidle : settled.wasStarted channel = false)
    (hsome : (settled.transfer? channel).isSome = true) (hsetup : settled.setup = some setup)
    (hwaited : waitFor world (!·.isDebugBusy) waitBound (settled.unmaskEvent channel) =
      (true, waited)) :
    LaunchesAt world channel before waited
      (((waited.issue (.channel channel)
        (.go channel (setup.slabAddress channel) setup.device.nonsecure)).setRunning true
          channel).log (.started (.channel channel) (setup.slabAddress channel))) := by
  have hself : bitOf (settled.read .interruptEnable ||| channelBit channel) channel = true := by
    rw [bitOf_or, bitOf_channelBit hchannel, decide_eq_true rfl, Bool.or_true]
  rcases waitFor_cases world (!·.isDebugBusy) waitBound (settled.unmaskEvent channel) with
    ⟨microseconds, hbound, hfound, hwait⟩ | ⟨-, hwait⟩
  · exact .intro hsettling hsettling.stopped hidle hsome hsetup (keepsOthers_or hchannel _) hself
      hbound hfound (congrArg Prod.snd (hwaited.symm.trans hwait)) rfl
  · cases hwaited.symm.trans hwait

/-- Starting the thread of a channel launches nothing, or it succeeds and launches the
channel. -/
theorem launches_of_startThread (world : World) (hchannel : channel < 32) (before : Controller)
    (hstart : (startThread world channel).perform before = outcome) :
    GoesOn Event.IsLaunch before outcome.2 ∨
      outcome.1 = .ok () ∧ ∃ moment, LaunchesAt world channel before moment outcome.2 := by
  have hsettling := settling_settle world channel before
  have hlaunchless : GoesOn Event.IsLaunch before
      ((settle world channel (before.channelState channel)).perform before).2 :=
    (stopping_launchless (.channel channel)).settle world _ before
  have hstarts := startsThread_startThread world channel before
  rw [hstart] at hstarts
  cases hstarts with
  | leave => exact .inl (.refl _ before)
  | refuse => exact .inl (aside_log ..).launchless
  | stick hsettle =>
      rw [hsettle] at hlaunchless
      exact .inl hlaunchless
  | @trigger settled _ hsettle htrigger =>
      rw [hsettle] at hsettling hlaunchless
      have hwaits := (stopping_launchless .manager).waitFor world (!·.isDebugBusy) waitBound
        (settled.unmaskEvent channel)
      have htriggers := triggers_trigger world channel settled
      rw [htrigger] at htriggers
      cases htriggers with
      | leave | refuse => exact .inl hlaunchless
      | launch hsetup hidle hsome hwaited =>
          exact .inr ⟨rfl, _, launchesAt_of_waited hchannel hsettling hidle hsome hsetup hwaited⟩
      | drop hsetup hidle hsome hwaited =>
          rw [hwaited] at hwaits
          have hwaited := (aside_unmaskEvent channel settled).launchless.trans hwaits
          exact .inl ((hlaunchless.trans hwaited).trans
            ((aside_log ..).launchless.trans (aside_maskEvent ..).launchless))

namespace LaunchesAt

variable {moment : Controller}

/-- What leads to the launch is made of steps. -/
theorem steps (hlaunches : LaunchesAt world channel before moment after) : Steps before moment := by
  have hparts := (submitting_steps channel).toStopping.inWorld world
  cases hlaunches with
  | intro hsettling _ _ _ _ _ _ _ _ hmoment =>
      rw [hmoment]
      refine (hparts.settling hsettling).trans ?_
      exact (Steps.aside (aside_write ..)).trans (hparts.later ..)

/-- Nothing was launched before. -/
theorem launchless (hlaunches : LaunchesAt world channel before moment after) :
    GoesOn Event.IsLaunch before moment := by
  have hparts := (stopping_launchless (.channel channel)).inWorld world
  cases hlaunches with
  | intro hsettling _ _ _ _ _ _ _ _ hmoment =>
      rw [hmoment]
      exact (hparts.settling hsettling).trans ((aside_write ..).launchless.trans (hparts.later ..))

/-- At the moment of the launch the setup and the transfer are still there. -/
theorem ready (hlaunches : LaunchesAt world channel before moment after) :
    ∃ setup transfer, moment.setup = some setup ∧ moment.transfer? channel = some transfer ∧
      after = ((moment.issue (.channel channel)
        (.go channel (setup.slabAddress channel) setup.device.nonsecure)).setRunning true
          channel).log (.started (.channel channel) (setup.slabAddress channel)) := by
  cases hlaunches with
  | @intro settled setup value microseconds _ _ _ hsome hsetup _ _ _ _ hmoment hafter =>
      have hkept : moment.setup = settled.setup := by
        rw [hmoment]
        exact setup_later ..
      obtain ⟨transfer, htransfer⟩ := Option.isSome_iff_exists.mp hsome
      exact ⟨setup, transfer, hkept.trans hsetup,
        (transfer?_eq_of_setup hkept channel).trans htransfer, hafter⟩

/-- The launch is written down after what happened before, and only messages follow. -/
theorem history (hlaunches : LaunchesAt world channel before moment after) :
    ∃ setup transfer noted, moment.setup = some setup ∧
      moment.transfer? channel = some transfer ∧
      after.history = noted ++ .issue (.channel channel)
        (.go channel (setup.slabAddress channel) setup.device.nonsecure) :: moment.history ∧
      ∀ event ∈ noted, ¬ event.IsLaunch := by
  obtain ⟨setup, transfer, hsetup, htransfer, hafter⟩ := hlaunches.ready
  obtain ⟨-, -, -, issued, hissued, hhanded⟩ := issue_frame (.channel channel)
    (.go channel (setup.slabAddress channel) setup.device.nonsecure) moment
  obtain ⟨logged, hlogged, hsaid⟩ := (aside_log (.started (.channel channel)
    (setup.slabAddress channel)) (setRunning true channel (moment.issue (.channel channel)
      (.go channel (setup.slabAddress channel) setup.device.nonsecure)))).history
  refine ⟨setup, transfer, logged ++ issued, hsetup, htransfer, ?_, fun event hmem => ?_⟩
  · rw [hafter, hlogged, List.append_assoc]
    exact congrArg (logged ++ ·) hissued
  · rcases List.mem_append.mp hmem with hlog | hissue
    · exact (hsaid event hlog).not_isLaunch
    · exact (hhanded event hissue).not_isLaunch

/-- No other launch was written down since a state from which nothing was launched until the
channel was called. -/
theorem only {earlier : Controller} (hlaunches : LaunchesAt world channel before moment after)
    (hearlier : GoesOn Event.IsLaunch earlier before) :
    ∃ setup transfer events, moment.setup = some setup ∧
      moment.transfer? channel = some transfer ∧ after.history = events ++ earlier.history ∧
      ∀ newer older event, event.IsLaunch → events = newer ++ event :: older →
        moment.history = older ++ earlier.history ∧
        event = .issue (.channel channel)
          (.go channel (setup.slabAddress channel) setup.device.nonsecure) := by
  obtain ⟨setup, transfer, noted, hsetup, htransfer, hhistory, hnone⟩ := hlaunches.history
  obtain ⟨quiet, hquiet, hspared⟩ := hearlier.trans hlaunches.launchless
  refine ⟨setup, transfer, noted ++ .issue (.channel channel)
    (.go channel (setup.slabAddress channel) setup.device.nonsecure) :: quiet, hsetup, htransfer,
    ?_, fun newer older event hlaunch hevents => ?_⟩
  · rw [hhistory, hquiet, List.append_assoc, List.cons_append]
  · obtain ⟨between, -, hbetween⟩ := exists_append_of_kind hlaunch hevents.symm hnone
    cases between with
    | nil =>
        obtain ⟨hevent, hquieter⟩ := List.cons.inj hbetween
        exact ⟨by rw [hquiet, hquieter], hevent.symm⟩
    | cons first between =>
        obtain ⟨-, hquieter⟩ := List.cons.inj hbetween
        have hmem : event ∈ quiet := hquieter ▸ List.mem_append_right _ List.mem_cons_self
        exact absurd hlaunch (hspared event hmem)

end LaunchesAt

/-! ## Operations of a holder -/

/-- The state in which the thread of a channel is started for the channel's holder. An abort
was taken note of, and if there is an order, its program was written before. -/
inductive Prepares (channel : Nat) (before : Controller) : Option Order → Controller → Prop
  | start : Prepares channel before none (before.noteAbort channel)
  | submit {order : Order} {setup : Setup} {installed : Controller}
      (hsetup : (before.noteAbort channel).setup = some setup)
      (hsuited : order.SuitedTo setup.device)
      (hinstall : (install (order.transfer (before.noteAbort channel).config) channel setup).perform
        (before.noteAbort channel) = (.ok (), installed)) :
      Prepares channel before (some order) (installed.noteAbort channel)

theorem Prepares.steps {order? : Option Order} {called : Controller}
    (hprepares : Prepares channel before order? called) : Steps before called := by
  have hparts := submitting_steps channel
  cases hprepares with
  | start => exact hparts.noteAbort before
  | submit hsetup hsuited hinstall =>
      have hinstalled := (hparts.inWorld fun _ => []).perform_install hsetup hsuited
      rw [hinstall] at hinstalled
      exact (hparts.noteAbort before).trans (hinstalled.trans (hparts.noteAbort _))

theorem Prepares.launchless {order? : Option Order} {called : Controller}
    (hprepares : Prepares channel before order? called) :
    GoesOn Event.IsLaunch before called := by
  cases hprepares with
  | start => exact launchless_noteAbort channel before
  | submit _ _ hinstall =>
      exact (launchless_noteAbort channel before).trans
        ((launchless_install hinstall).trans (launchless_noteAbort ..))

/-- Starting a channel launches nothing, or it succeeds and launches the channel. -/
theorem launches_of_start (world : World) (hchannel : channel < 32)
    (hstart : (start world channel).perform before = outcome) :
    GoesOn Event.IsLaunch before outcome.2 ∨
      outcome.1 = .ok () ∧ ∃ called moment, Prepares channel before none called ∧
        LaunchesAt world channel called moment outcome.2 := by
  rw [perform_start] at hstart
  rcases launches_of_startThread world hchannel _ hstart with hnone | ⟨hok, moment, hlaunches⟩
  · exact .inl ((launchless_noteAbort channel before).trans hnone)
  · exact .inr ⟨hok, _, moment, .start, hlaunches⟩

/-- Submitting to a channel launches nothing, or it succeeds and launches the channel. -/
theorem launches_of_submit (world : World) (hchannel : channel < 32) {order : Order}
    (hsubmit : (submit world channel order).perform before = outcome) :
    GoesOn Event.IsLaunch before outcome.2 ∨
      outcome.1 = .ok () ∧ ∃ called moment, Prepares channel before (some order) called ∧
        LaunchesAt world channel called moment outcome.2 := by
  have hnoted := launchless_noteAbort channel before
  have hsubmits := submits_submit world channel order before
  rw [hsubmit] at hsubmits
  cases hsubmits with
  | refuse => exact .inl hnoted
  | fail _ _ hinstall => exact .inl (hnoted.trans (launchless_install hinstall))
  | start hsetup _ _ hsuited hinstall hstart =>
      rw [perform_start] at hstart
      have hprepares := Prepares.submit hsetup hsuited hinstall
      rcases launches_of_startThread world hchannel _ hstart with hnone | ⟨hok, moment, hlaunches⟩
      · exact .inl (hprepares.launchless.trans hnone)
      · exact .inr ⟨hok, _, moment, hprepares, hlaunches⟩

end CyclicDma.Controller
