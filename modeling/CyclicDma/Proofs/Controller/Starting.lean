import CyclicDma.Proofs.Controller.Handling
import CyclicDma.Proofs.Controller.Launching
import CyclicDma.Proofs.Controller.Settling

/-! # Channels that are started

A start that succeeds launches nothing, or launches the channel with its last command.
A channel that is launched runs with its event enabled, unless it was overtaken: the world let
an interrupt come during one of the waits before the launch, and handling it killed the channel.
-/

namespace CyclicDma

/-- The event hands over a command that starts the channel. -/
def Event.launches (channel : Nat) : Event → Bool
  | issue _ (.go started ..) => started = channel
  | _ => false

namespace Controller

variable {before middle after controller : Controller} {channel : Nat} {world : World}

/-! ## Launches -/

/-- How often a command that starts the channel was handed over. -/
def launches (channel : Nat) (controller : Controller) : Nat :=
  controller.history.countP (Event.launches channel)

theorem launches_of_history {events : List Event}
    (hhistory : after.history = events ++ before.history)
    (hnone : ∀ event ∈ events, event.launches channel = false) :
    after.launches channel = before.launches channel := by
  have hzero : events.countP (Event.launches channel) = 0 :=
    List.countP_eq_zero.mpr fun event hmem => by simp [hnone event hmem]
  rw [launches, hhistory, List.countP_append, hzero, Nat.zero_add, launches]

theorem GoesOn.launches (hgoes : GoesOn Event.IsLaunch before after) (channel : Nat) :
    after.launches channel = before.launches channel := by
  obtain ⟨events, hhistory, hnone⟩ := hgoes
  refine launches_of_history hhistory fun event hmem => ?_
  cases event with
  | issue thread command =>
      cases command with
      | kill => rfl
      | go => exact absurd trivial (hnone _ hmem)
  | _ => rfl

theorem Keeps.launches (hkeeps : Keeps before after) (channel : Nat) :
    after.launches channel = before.launches channel :=
  hkeeps.launchless.launches channel

theorem launches_issue_go (thread : ThreadId) (channel : Nat) (address : UInt32)
    (nonsecure : Bool) (controller : Controller) :
    (controller.issue thread (.go channel address nonsecure)).launches channel =
      controller.launches channel + 1 := by
  refine ((aside_log ..).launches channel).trans ?_
  exact List.countP_cons_of_pos (decide_eq_true rfl)

/-- Nothing is launched meanwhile. -/
def LaunchesNone (channel : Nat) (before after : Controller) : Prop :=
  after.launches channel = before.launches channel

instance : Std.Refl (LaunchesNone channel) :=
  ⟨fun _ => rfl⟩

instance : IsTrans Controller (LaunchesNone channel) :=
  ⟨fun _ _ _ hfirst hsecond => hsecond.trans hfirst⟩

/-- Stopping a thread launches nothing. -/
theorem stopping_launchesNone (thread : ThreadId) (channel : Nat) :
    Stopping thread (LaunchesNone channel) :=
  (stopping_launchless thread).mono fun _ _ hgoes => hgoes.launches channel

/-- Nothing is launched while the debug interface is waited for, with the event of the
channel enabled. -/
theorem launchesNone_waited {reached : Bool} {waited : Controller}
    (hwaited : waitFor world (!·.isDebugBusy) waitBound (controller.unmaskEvent channel) =
      (reached, waited)) : LaunchesNone channel controller waited := by
  have hnone := (stopping_launchesNone .manager channel).waitFor world (!·.isDebugBusy) waitBound
    (controller.unmaskEvent channel)
  rw [hwaited] at hnone
  exact hnone.trans ((aside_unmaskEvent ..).launches channel)

theorem launches_noteAbort (channel : Nat) (controller : Controller) :
    (controller.noteAbort channel).launches channel = controller.launches channel :=
  (launchless_noteAbort channel controller).launches channel

/-! ## Starting -/

/-- The channel was launched once, by the last command that started or killed it. It
runs with its event enabled, unless the interrupt handler killed it. -/
structure Launched (channel : Nat) (before after : Controller) : Prop where
  launches : after.launches channel = before.launches channel + 1
  command : ∃ address nonsecure,
    after.lastCommand? channel = some (.go channel address nonsecure)
  running : (after.notificationsOf channel).aborted = false → after.isRunning channel = true
  enabled : (after.notificationsOf channel).aborted = false →
    hasChannel (after.read .interruptEnable) channel = true

theorem Launched.of_same (hsame : middle.launches channel = before.launches channel)
    (hlaunched : Launched channel middle after) : Launched channel before after :=
  ⟨hsame ▸ hlaunched.launches, hlaunched.command, hlaunched.running, hlaunched.enabled⟩

/-- A channel that has a transfer is launched after a wait, with its event enabled
before. -/
theorem launched_of_waited {waited : Controller} (hworld : world.Causes Disturbance.KeepsEnabled)
    (hmanaged : controller.managed ≤ 32) (hchannel : channel < 32)
    (hsome : (controller.transfer? channel).isSome = true)
    (hwaited : waitFor world (!·.isDebugBusy) waitBound (controller.unmaskEvent channel) =
      (true, waited)) (address : UInt32) (nonsecure : Bool) :
    Launched channel controller
      (((waited.issue (.channel channel) (.go channel address nonsecure)).setRunning true channel).log
        (.started (.channel channel) address)) := by
  have hwaits := attends_waitFor hworld (!·.isDebugBusy) waitBound (controller.unmaskEvent channel)
    hmanaged
  have hsame := (waits_waitFor world (!·.isDebugBusy) waitBound (controller.unmaskEvent channel)).setup
  have hnone := launchesNone_waited hwaited
  rw [hwaited] at hwaits hsame
  have hstands := congrFun (standings_started channel address nonsecure waited) channel
  rw [Function.update_self] at hstands
  have haborted := congrArg Standing.aborted hstands
  refine ⟨?_, ⟨address, nonsecure, congrArg Standing.command hstands⟩, fun hlive => ?_,
    fun hlive => ?_⟩
  · refine ((aside_log ..).launches channel).trans ?_
    refine (launches_issue_go (.channel channel) channel address nonsecure waited).trans ?_
    rw [hnone]
  · refine isRunning_started ?_ (haborted.symm.trans hlive) address nonsecure
    rwa [transfer?_eq_of_setup hsame channel]
  · -- the event was enabled before the wait, and stays so if the channel was not killed
    have hself := hwaits channel
    rw [standings_unmaskEvent hchannel, Function.update_self] at hself
    rw [← enabled_standings hchannel, hstands]
    rcases hself with hquiet | ⟨-, hkilled⟩
    · rw [hquiet]
    · have hlost := (congrArg Standing.aborted hkilled).symm.trans (haborted.symm.trans hlive)
      cases hlost

/-- A stopped channel is launched, unless it was started before. -/
theorem launched_of_trigger (hworld : world.Causes Disturbance.KeepsEnabled)
    (hmanaged : controller.managed ≤ 32) (hchannel : channel < 32)
    (htrigger : (trigger world channel).perform controller = (.ok (), after)) :
    LaunchesNone channel controller after ∨ Launched channel controller after := by
  have htriggers := triggers_trigger world channel controller
  rw [htrigger] at htriggers
  cases htriggers with
  | leave => exact .inl rfl
  | launch hsetup hidle hsome hwaited =>
      exact .inr (launched_of_waited hworld hmanaged hchannel hsome hwaited ..)

theorem launched_of_startThread (hworld : world.Causes Disturbance.KeepsEnabled)
    (hmanaged : controller.managed ≤ 32) (hchannel : channel < 32)
    (hstart : (startThread world channel).perform controller = (.ok (), after)) :
    LaunchesNone channel controller after ∨ Launched channel controller after := by
  have hstarts := startsThread_startThread world channel controller
  rw [hstart] at hstarts
  cases hstarts with
  | leave => exact .inl rfl
  | trigger hsettle htrigger =>
      have hsettled : LaunchesNone channel controller
          ((settle world channel (controller.channelState channel)).perform controller).2 :=
        (stopping_launchesNone (.channel channel) channel).settle world _ controller
      have hkept := managed_of_perform (follows_settle world channel _) hsettle
      rw [hsettle] at hsettled
      rcases launched_of_trigger hworld (hkept.trans_le hmanaged) hchannel htrigger with
        hnone | hlaunched
      · exact .inl (hnone.trans hsettled)
      · exact .inr (hlaunched.of_same hsettled)

theorem launched_of_start (hworld : world.Causes Disturbance.KeepsEnabled)
    (hmanaged : controller.managed ≤ 32) (hchannel : channel < 32)
    (hstart : (start world channel).perform controller = (.ok (), after)) :
    LaunchesNone channel controller after ∨ Launched channel controller after := by
  have hnoted := launches_noteAbort channel controller
  have hbound := (managed_noteAbort channel controller).trans_le hmanaged
  rw [perform_start] at hstart
  rcases launched_of_startThread hworld hbound hchannel hstart with hnone | hlaunched
  · exact .inl (hnone.trans hnoted)
  · exact .inr (hlaunched.of_same hnoted)

theorem launches_install {result : Except DmaError Unit} {transfer : Transfer} {setup : Setup}
    (hinstall : (install transfer channel setup).perform controller = (result, after)) :
    LaunchesNone channel controller after :=
  (launchless_install hinstall).launches channel

theorem launched_of_submit {order : Order} (hworld : world.Causes Disturbance.KeepsEnabled)
    (hmanaged : controller.managed ≤ 32) (hchannel : channel < 32)
    (hsubmit : (submit world channel order).perform controller = (.ok (), after)) :
    LaunchesNone channel controller after ∨ Launched channel controller after := by
  have hnoted := launches_noteAbort channel controller
  have hbound := (managed_noteAbort channel controller).trans_le hmanaged
  have hsubmits := submits_submit world channel order controller
  rw [hsubmit] at hsubmits
  cases hsubmits with
  | start hsetup hidle hstopped _ hinstall hstart =>
      have hkept := (managed_of_install hsetup hinstall).trans_le hbound
      have hsame := (launches_install hinstall).trans hnoted
      rcases launched_of_start hworld hkept hchannel hstart with hnone | hlaunched
      · exact .inl (hnone.trans hsame)
      · exact .inr (hlaunched.of_same hsame)

/-! ## Channels that are overtaken -/

/-- A wait of starting the thread of a channel: where it begins, and after how many
microseconds it ends. The channel is waited for while it is about to fault, while it is being
killed, and until it stops; the debug interface is waited for before a command. -/
inductive WaitsFor (world : World) (channel : Nat) (called : Controller) :
    Controller → Nat → Prop
  | fault {microseconds : Nat} (hentry : called.channelState channel = .faultCompleting)
      (hbound : microseconds ≤ waitBound)
      (hfound : FoundAfter world (hasFaulted channel) called microseconds) :
      WaitsFor world channel called called microseconds
  | kill {faulted : Controller} {microseconds : Nat}
      (hdecides : Decides world (.channel channel) called (.channel .faulting) faulted)
      (hbound : microseconds ≤ waitBound)
      (hidle : FoundAfter world (!·.isDebugBusy) faulted microseconds) :
      WaitsFor world channel called faulted microseconds
  | death {dying : Controller} {microseconds : Nat}
      (hentry : called.channelState channel = .faultCompleting)
      (hdecides : Decides world (.channel channel) called (.channel .killing) dying)
      (hbound : microseconds ≤ waitBound)
      (hstopped : FoundAfter world (hasStopped channel) dying microseconds) :
      WaitsFor world channel called dying microseconds
  | stop {calmed : Controller} {microseconds : Nat}
      (hactive : (called.channelState channel).isActive = false)
      (hcalms : Calms world channel called calmed) (hbound : microseconds ≤ waitBound)
      (hstopped : FoundAfter world (hasStopped channel) calmed microseconds) :
      WaitsFor world channel called calmed microseconds
  | launch {settled : Controller} {microseconds : Nat}
      (hsettling : Settling world channel called (.ok (), settled))
      (hstarted : settled.wasStarted channel = false)
      (hsome : (settled.transfer? channel).isSome = true) (hbound : microseconds ≤ waitBound)
      (hidle : FoundAfter world (!·.isDebugBusy) (settled.unmaskEvent channel) microseconds) :
      WaitsFor world channel called (settled.unmaskEvent channel) microseconds

/-- A controller in the middle of a microsecond, when some things have happened. -/
def amid (disturbances : List Disturbance) (controller : Controller) : Controller :=
  disturbances.foldl disturb ({ controller with clock := controller.clock + 1 }.record .delay)

/-- The interrupt handler killed the channel while its thread was being started: in the middle
of a microsecond of one of the waits, the world let an interrupt come. -/
inductive Overtaken (world : World) (channel : Nat) (called after : Controller) : Prop
  | intro {start moment : Controller} {microseconds earlier : Nat} {first rest : List Disturbance}
      (hwaits : WaitsFor world channel called start microseconds)
      (hearlier : earlier < microseconds)
      (hworld : world ((later world earlier start).clock + 1) = first ++ .interrupt :: rest)
      (hmoment : moment = (later world earlier start).amid first)
      (hkills : Kills channel moment moment.onInterrupt.2) (hbefore : Steps called moment)
      (hafter : Steps moment.onInterrupt.2 after)

theorem Overtaken.trans_steps (hovertaken : Overtaken world channel before middle)
    (hsteps : Steps middle after) : Overtaken world channel before after := by
  cases hovertaken with
  | intro hwaits hearlier hworld hmoment hkills hbefore hafter =>
      exact .intro hwaits hearlier hworld hmoment hkills hbefore (hafter.trans hsteps)

/-- Kills are only ever added. -/
theorem Steps.kills_le (hsteps : Steps before after) (channel : Nat) :
    before.kills channel ≤ after.kills channel := by
  obtain ⟨events, hhistory⟩ := Steps.history hsteps
  rw [kills, kills, hhistory, List.count_append]
  exact Nat.le_add_left ..

/-- A channel that was overtaken was killed once more. -/
theorem Overtaken.kills_lt (hovertaken : Overtaken world channel before after) :
    before.kills channel < after.kills channel := by
  cases hovertaken with
  | intro _ _ _ _ hkills hbefore hafter =>
      have hearlier := Steps.kills_le hbefore channel
      have hlater := Steps.kills_le hafter channel
      rw [hkills.issued] at hlater
      omega

/-- If the channel is marked as aborted in the end, an interrupt was handled that killed it. -/
theorem exists_interrupt {disturbances : List Disturbance} (hmanaged : controller.managed ≤ 32)
    (hlive : (controller.notificationsOf channel).aborted = false)
    (haborted : ((disturbances.foldl disturb controller).notificationsOf channel).aborted = true) :
    ∃ first rest, disturbances = first ++ .interrupt :: rest ∧
      Kills channel (first.foldl disturb controller)
        (first.foldl disturb controller).onInterrupt.2 := by
  induction disturbances generalizing controller with
  | nil =>
      rw [List.foldl_nil, hlive] at haborted
      cases haborted
  | cons disturbance others ih =>
      cases hnext : ((controller.disturb disturbance).notificationsOf channel).aborted with
      | false =>
          have hkept := (waits_disturb disturbance controller).steps.sameAssignment.managed
          obtain ⟨first, rest, rfl, hkills⟩ := ih (hkept.trans_le hmanaged) hnext haborted
          exact ⟨disturbance :: first, rest, rfl, hkills⟩
      | true =>
          cases disturbance with
          | change register value =>
              have hsame := (aside_change register value controller).notificationsOf channel
              have hmarked : (controller.notificationsOf channel).aborted = true := hsame ▸ hnext
              rw [hlive] at hmarked
              cases hmarked
          | interrupt => exact ⟨[], others, rfl, kills_of_aborted hmanaged hlive hnext⟩

/-- Starting the thread of a channel gets somewhere. The channel is marked as aborted there
only if it was overtaken. -/
structure Arrives (world : World) (channel : Nat) (called after : Controller) : Prop where
  steps : Steps called after
  overtaken : (after.notificationsOf channel).aborted = true →
    Overtaken world channel called after

namespace Arrives

variable {called start : Controller} {microseconds : Nat}

theorem refl (hlive : (called.notificationsOf channel).aborted = false) :
    Arrives world channel called called :=
  ⟨.refl, fun haborted => by rw [hlive] at haborted; cases haborted⟩

/-- What is done at once marks no kill. -/
theorem atOnce (harrives : Arrives world channel called middle) (hsteps : Steps middle after)
    (hsame : after.notificationsOf channel = middle.notificationsOf channel) :
    Arrives world channel called after where
  steps := harrives.steps.trans hsteps
  overtaken haborted := (harrives.overtaken (hsame ▸ haborted)).trans_steps hsteps

theorem aside (harrives : Arrives world channel called middle) (haside : Aside middle after) :
    Arrives world channel called after :=
  harrives.atOnce (.aside haside) (haside.notificationsOf channel)

theorem markStopped (harrives : Arrives world channel called middle) :
    Arrives world channel called (middle.markStopped (.channel channel)) :=
  harrives.atOnce ((submitting_steps channel).markStopped middle) rfl

/-- A microsecond of a wait marks a kill only if it lets the channel be overtaken. -/
theorem pause (hmanaged : called.managed ≤ 32)
    (hwaits : WaitsFor world channel called start microseconds) {earlier : Nat}
    (hearlier : earlier < microseconds)
    (harrives : Arrives world channel called (later world earlier start)) :
    Arrives world channel called ((later world earlier start).pause world) := by
  have hparts := (submitting_steps channel).toStopping
  have hpaused := hparts.pause world (later world earlier start)
  refine ⟨harrives.steps.trans hpaused, fun haborted => ?_⟩
  cases hlive : ((later world earlier start).notificationsOf channel).aborted with
  | true => exact (harrives.overtaken hlive).trans_steps hpaused
  | false =>
      have hkept := (Steps.managed harrives.steps).trans_le hmanaged
      obtain ⟨first, rest, hworld, hkills⟩ : ∃ first rest,
          world ((later world earlier start).clock + 1) = first ++ .interrupt :: rest ∧
          Kills channel ((later world earlier start).amid first)
            ((later world earlier start).amid first).onInterrupt.2 :=
        @exists_interrupt (amid [] (later world earlier start)) channel _ hkept hlive haborted
      have hpause : (later world earlier start).pause world =
          rest.foldl disturb ((later world earlier start).amid first).onInterrupt.2 := by
        change (world ((later world earlier start).clock + 1)).foldl disturb _ = _
        rw [hworld, List.foldl_append]
        rfl
      have hafter : Steps ((later world earlier start).amid first).onInterrupt.2
          ((later world earlier start).pause world) := by
        rw [hpause]
        exact hparts.disturbed rest _
      have hticked := hparts.tick (later world earlier start)
      exact .intro hwaits hearlier hworld rfl hkills
        (harrives.steps.trans (hticked.trans (hparts.disturbed first _))) hafter

/-- A wait marks a kill only if it lets the channel be overtaken. -/
theorem wait (hmanaged : called.managed ≤ 32) (harrives : Arrives world channel called start)
    (hwaits : WaitsFor world channel called start microseconds) :
    Arrives world channel called (later world microseconds start) := by
  -- the induction is on how far the wait has got
  have hreached : ∀ reached ≤ microseconds,
      Arrives world channel called (later world reached start) := by
    intro reached
    induction reached with
    | zero => exact fun _ => harrives
    | succ reached ih =>
        intro hbound
        have hnext : later world (reached + 1) start = (later world reached start).pause world :=
          Function.iterate_succ_apply' ..
        rw [hnext]
        exact .pause hmanaged hwaits (Nat.lt_of_succ_le hbound) (ih (Nat.le_of_succ_le hbound))
  exact hreached microseconds (Nat.le_refl _)

section

variable {decided calmed settled : Controller} {state : ThreadState}
variable (hmanaged : called.managed ≤ 32)
variable (hlive : (called.notificationsOf channel).aborted = false)

include hmanaged hlive

theorem decides (hdecides : Decides world (.channel channel) called state decided) :
    Arrives world channel called decided := by
  cases hdecides with
  | entry => exact .refl hlive
  | waited hentry hbound hfound => exact .wait hmanaged (.refl hlive) (.fault hentry hbound hfound)

theorem calms (hcalms : Calms world channel called calmed) :
    Arrives world channel called calmed := by
  cases hcalms with
  | leave => exact .refl hlive
  | @kill faulted microseconds hdecides hbound hidle =>
      have hwaited : Arrives world channel called (later world microseconds faulted) :=
        .wait hmanaged (.decides hmanaged hlive hdecides) (.kill hdecides hbound hidle)
      have hkilled := (hwaited.aside (aside_issue_kill (.channel channel) _)).aside
        (aside_silence (.channel channel) _)
      exact (hkilled.aside (aside_log ..)).markStopped
  | @spare dying microseconds hentry hdecides hbound hstopped =>
      have hwaited : Arrives world channel called (later world microseconds dying) :=
        .wait hmanaged (.decides hmanaged hlive hdecides) (.death hentry hdecides hbound hstopped)
      exact hwaited.markStopped

theorem settles (hactive : (called.channelState channel).isActive = false)
    (hsettling : Settling world channel called (.ok (), settled)) :
    Arrives world channel called settled := by
  cases hsettling with
  | settle hcalms hbound hstopped =>
      exact .wait hmanaged (.calms hmanaged hlive hcalms) (.stop hactive hcalms hbound hstopped)

end

end Arrives

theorem notificationsOf_started (setup : Setup) (channel : Nat) (controller : Controller) :
    (((controller.issue (.channel channel)
      (.go channel (setup.slabAddress channel) setup.device.nonsecure)).setRunning true
        channel).log (.started (.channel channel) (setup.slabAddress channel))).notificationsOf
          channel = controller.notificationsOf channel := by
  obtain ⟨-, -, hnotifications, -⟩ := issue_frame (.channel channel)
    (.go channel (setup.slabAddress channel) setup.device.nonsecure) controller
  refine ((aside_log ..).notificationsOf channel).trans ?_
  exact congrArg (fun notifications : List Notifications => notifications.getD channel {})
    hnotifications

/-- A channel that is active is left alone. -/
theorem startThread_of_active (hactive : (controller.channelState channel).isActive = true) :
    (startThread world channel).perform controller = (.ok (), controller) := by
  rw [startThread, Attempt.perform_bind, Attempt.perform_get]
  dsimp only
  rw [if_pos hactive]
  rfl

/-- A launch marks a kill only if the wait before it lets the channel be overtaken. -/
theorem arrives_trigger {called settled : Controller} (hmanaged : called.managed ≤ 32)
    (harrives : Arrives world channel called settled)
    (hsettling : Settling world channel called (.ok (), settled))
    (htrigger : (trigger world channel).perform settled = (.ok (), after)) :
    Arrives world channel called after := by
  have htriggers := triggers_trigger world channel settled
  rw [htrigger] at htriggers
  cases htriggers with
  | leave => exact harrives
  | @launch setup waited hsetup hidle hsome hwaited =>
      have hunmasked := harrives.aside (aside_unmaskEvent channel settled)
      rcases waitFor_cases world (!·.isDebugBusy) waitBound (settled.unmaskEvent channel) with
        ⟨microseconds, hbound, hfound, hwait⟩ | ⟨-, hwait⟩
      · obtain rfl := congrArg Prod.snd (hwaited.symm.trans hwait)
        have hready := hunmasked.wait hmanaged (.launch hsettling hidle hsome hbound hfound)
        obtain ⟨transfer, htransfer⟩ := Option.isSome_iff_exists.mp hsome
        have hkept := setup_later world microseconds (settled.unmaskEvent channel)
        have hlaunch := (submitting_steps channel).launch (hkept.trans hsetup)
          ((transfer?_eq_of_setup hkept channel).trans htransfer)
        exact hready.atOnce (hlaunch.trans (Steps.aside (aside_log ..)))
          (notificationsOf_started setup channel _)
      · cases hwaited.symm.trans hwait

/-- A start that succeeds aborts the channel only by being overtaken. -/
theorem arrives_startThread {called : Controller} (hmanaged : called.managed ≤ 32)
    (hlive : (called.notificationsOf channel).aborted = false)
    (hstart : (startThread world channel).perform called = (.ok (), after)) :
    Arrives world channel called after := by
  cases hactive : (called.channelState channel).isActive with
  | true =>
      rw [startThread_of_active hactive] at hstart
      cases hstart
      exact .refl hlive
  | false =>
      have hsettling := settling_settle world channel called
      have hstarts := startsThread_startThread world channel called
      rw [hstart] at hstarts
      cases hstarts with
      | leave => exact .refl hlive
      | trigger hsettle htrigger =>
          rw [hsettle] at hsettling
          have hsettled := Arrives.settles hmanaged hlive hactive hsettling
          exact arrives_trigger hmanaged hsettled hsettling htrigger

theorem aborted_noteAbort (channel : Nat) (controller : Controller) :
    ((controller.noteAbort channel).notificationsOf channel).aborted = false := by
  have hself := congrFun (standings_noteAbort channel controller) channel
  rw [Function.update_self] at hself
  exact (congrArg Standing.aborted hself).trans (Standing.aborted_noted _)

/-- What a start or a submission comes to, if it succeeds. -/
structure Starts (world : World) (channel : Nat) (order? : Option Order)
    (before after : Controller) : Prop where
  launched : LaunchesNone channel before after ∨ Launched channel before after
  overtaken : (after.notificationsOf channel).aborted = true →
    ∃ called, Prepares channel before order? called ∧ Overtaken world channel called after

theorem starts_of_start (hworld : world.Causes Disturbance.KeepsEnabled)
    (hmanaged : controller.managed ≤ 32) (hchannel : channel < 32)
    (hstart : (start world channel).perform controller = (.ok (), after)) :
    Starts world channel none controller after where
  launched := launched_of_start hworld hmanaged hchannel hstart
  overtaken haborted := by
    rw [perform_start] at hstart
    have harrives := arrives_startThread ((managed_noteAbort channel controller).trans_le hmanaged)
      (aborted_noteAbort channel controller) hstart
    exact ⟨_, .start, harrives.overtaken haborted⟩

theorem starts_of_submit {order : Order} (hworld : world.Causes Disturbance.KeepsEnabled)
    (hmanaged : controller.managed ≤ 32) (hchannel : channel < 32)
    (hsubmit : (submit world channel order).perform controller = (.ok (), after)) :
    Starts world channel (some order) controller after where
  launched := launched_of_submit hworld hmanaged hchannel hsubmit
  overtaken haborted := by
    have hsubmits := submits_submit world channel order controller
    rw [hsubmit] at hsubmits
    cases hsubmits with
    | start hsetup _ _ hsuited hinstall hstart =>
        rw [perform_start] at hstart
        have hbound := (managed_noteAbort channel controller).trans_le hmanaged
        have hkept := (managed_of_install hsetup hinstall).trans_le hbound
        have harrives := arrives_startThread ((managed_noteAbort channel _).trans_le hkept)
          (aborted_noteAbort channel _) hstart
        exact ⟨_, .submit hsetup hsuited hinstall, harrives.overtaken haborted⟩

end Controller

end CyclicDma
