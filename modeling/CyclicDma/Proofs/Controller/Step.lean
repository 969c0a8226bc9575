import CyclicDma.Controller.Period
import CyclicDma.Controller.Submit
import CyclicDma.Driver.Allocation
import CyclicDma.Proofs.Attempt
import CyclicDma.Proofs.Controller.Interrupt

/-! # Steps of a controller

Whatever a driver does to its controller, and whatever happens to the controller
meanwhile, is a sequence of steps. A step says under which circumstances it is
taken: a channel is launched where a transfer was submitted, a transfer is
recorded where its program was written, and a region is accepted where it holds
the slabs of all usable channels. What holds of new controllers and is kept by
every step therefore holds at all times.
-/

namespace CyclicDma

namespace Controller

/-- Take the pending periods of a channel for delivery. -/
def takePending (channel : Nat) (controller : Controller) : Controller :=
  controller.updateNotifications channel Notifications.take
    |>.record (.take channel (controller.notificationsOf channel).pending)

/-- Forget what a channel did not deliver. -/
def discardPending (channel : Nat) (controller : Controller) : Controller :=
  (controller.record (.discard channel (controller.notificationsOf channel).pending))
    |>.updateNotifications channel Notifications.clear

/-- Keep the waker of whoever waits for a period of the channel. -/
def setWaker (waker : Waker) (channel : Nat) (controller : Controller) : Controller :=
  controller.updateNotifications channel ({ · with waker := some waker })

/-- Give the request of a channel another value. -/
def setRequest (channel : Nat) (request : Option Request) (controller : Controller) :
    Controller :=
  { controller with
    setup := controller.setup.map fun setup =>
      { setup with requests := setup.requests.set channel request } }

/-- A step that drives threads, or that happens to a controller on its own.
Programs, transfers and registrations stay as they are. -/
inductive ThreadStep : Controller → Controller → Prop
  | aside {before after : Controller} (haside : Aside before after) : ThreadStep before after
  | interrupt (controller) : ThreadStep controller controller.onInterrupt.2
  | setAborted (channel aborted controller) :
      ThreadStep controller (controller.updateNotifications channel ({ · with aborted }))
  | setRunning (running channel controller) :
      ThreadStep controller (controller.setRunning running channel)
  /-- The program in the slab of a channel is started. -/
  | launch {channel setup transfer} {controller : Controller}
      (hsetup : controller.setup = some setup)
      (htransfer : controller.transfer? channel = some transfer) :
      ThreadStep controller
        (controller.issue (.channel channel)
          (.go channel (setup.slabAddress channel) setup.device.nonsecure))

/-- A step of a controller, of its driver or of the world around it. -/
inductive Step : Controller → Controller → Prop
  | thread {before after : Controller} (hthread : ThreadStep before after) : Step before after
  | await (channel waker controller) :
      Step controller (controller.updateNotifications channel ({ · with waker := some waker }))
  | register {channel callback context owner controller id notifications}
      (hregister : (controller.notificationsOf channel).register callback context owner =
        .ok (id, notifications)) :
      Step controller (controller.updateNotifications channel fun _ => notifications)
  | unregister {channel id controller registration notifications}
      (hunregister : (controller.notificationsOf channel).unregister id =
        .ok (registration, notifications)) :
      Step controller (controller.updateNotifications channel fun _ => notifications)
  | removeOwner (owner controller) :
      Step controller
        { controller with
          notifications := controller.notifications.map (·.removeOwner owner) }
  | takePending (channel controller) : Step controller (controller.takePending channel)
  | discardPending (channel controller) : Step controller (controller.discardPending channel)
  | forget (channel controller) : Step controller (controller.setTransfer none channel)
  /-- The program of an order is written into the slab of a channel, and its
  transfer is recorded. -/
  | install {channel controller setup size slab} {order : Order}
      (hsetup : controller.setup = some setup) (hsuited : order.SuitedTo setup.device)
      (hwrite : Program.write (order.transfer controller.config) (.ofNat channel)
        (setup.region.slab channel) = .ok (size, slab)) :
      Step controller
        ((controller.storeSlab slab channel).setTransfer
          (some (order.transfer controller.config)) channel)
  | allocate {channel controller setup} (hsetup : controller.setup = some setup)
      (hfree : setup.requests[channel]? = some none) :
      Step controller (controller.setRequest channel (some {}))
  | release (channel controller) : Step controller (controller.setRequest channel none)
  /-- A region is divided among the channels that can be used. -/
  | open {controller config device region} (busAddress usable) (hclosed : controller.setup = none)
      (hdevice : device = Device.ofRegisters controller.registers)
      (hsupported : config.SupportedBy device)
      (husable : usable = Driver.usableChannels device controller)
      (hregion : Region.slabBytes * usable ≤ region.bytes.length) :
      Step controller
        { controller with
          config
          setup := some
            { device, region, busAddress, requests := List.replicate usable none } }
  | close (controller) : Step controller { controller with setup := none }

/-- Any number of steps that drive threads. -/
abbrev ThreadSteps : Controller → Controller → Prop :=
  Relation.ReflTransGen ThreadStep

/-- Any number of steps. -/
abbrev Steps : Controller → Controller → Prop :=
  Relation.ReflTransGen Step

/-- The controller can come about, starting with a new one. -/
def Reachable (controller : Controller) : Prop :=
  ∃ channels start, new? channels = some start ∧ Steps start controller

variable {before after controller : Controller}

theorem history_new {channels : Nat} (hnew : new? channels = some controller) :
    controller.history = [] := by
  unfold new? at hnew
  split at hnew
  · cases hnew
    rfl
  · cases hnew

theorem ThreadSteps.steps (hsteps : ThreadSteps before after) : Steps before after :=
  Relation.ReflTransGen.mono (fun _ _ hthread => Step.thread hthread) _ _ hsteps

theorem ThreadSteps.aside (haside : Aside before after) : ThreadSteps before after :=
  .single (.aside haside)

theorem Steps.aside (haside : Aside before after) : Steps before after :=
  .single (.thread (.aside haside))

/-! ## Registers, messages and marks -/

theorem threadSteps_log (message : LogMessage) (controller : Controller) :
    ThreadSteps controller (controller.log message) :=
  .aside (aside_log message controller)

theorem threadSteps_abort (channel : Nat) (controller : Controller) :
    ThreadSteps controller (controller.abort channel) := by
  obtain ⟨killed, hkilled, heq | heq⟩ := abort_eq channel controller
  · exact heq ▸ .aside hkilled
  · exact heq ▸ (ThreadSteps.aside hkilled).tail (.setAborted channel true killed)

theorem threadSteps_noteAbort (channel : Nat) (controller : Controller) :
    ThreadSteps controller (controller.noteAbort channel) := by
  unfold noteAbort
  split
  · exact .tail (.single (.setAborted channel false controller)) (.setRunning false channel _)
  · exact .refl

theorem threadSteps_markStopped (thread : ThreadId) (controller : Controller) :
    ThreadSteps controller (controller.markStopped thread) := by
  cases thread with
  | manager => exact .refl
  | channel channel => exact .single (.setRunning false channel controller)

/-- A poll that is ready changes nothing, and one that is pending keeps the waker. -/
theorem pollPeriod_cases (future : PeriodFuture) (waker : Waker) (controller : Controller) :
    (∃ result, controller.pollPeriod future waker = (.ready result, controller)) ∨
      controller.pollPeriod future waker =
        (.pending, controller.setWaker waker future.channel) := by
  unfold pollPeriod
  dsimp only
  split
  · exact .inl ⟨_, rfl⟩
  · split
    · exact .inl ⟨_, rfl⟩
    · exact .inr rfl

theorem steps_pollPeriod (future : PeriodFuture) (waker : Waker) (controller : Controller) :
    Steps controller (controller.pollPeriod future waker).2 := by
  rcases pollPeriod_cases future waker controller with ⟨result, hready⟩ | hpending
  · rw [hready]
  · rw [hpending]
    exact .single (.await ..)

/-! ## Waits -/

/-- Whatever happens, it leaves the setup alone. -/
structure Waits (before after : Controller) : Prop where
  steps : ThreadSteps before after
  setup : after.setup = before.setup
  config : after.config = before.config

theorem Waits.refl (controller : Controller) : Waits controller controller :=
  ⟨.refl, rfl, rfl⟩

theorem Waits.trans {middle : Controller} (hfirst : Waits before middle)
    (hsecond : Waits middle after) : Waits before after :=
  ⟨hfirst.steps.trans hsecond.steps, hsecond.setup.trans hfirst.setup,
    hsecond.config.trans hfirst.config⟩

theorem Waits.aside (haside : Aside before after) : Waits before after :=
  ⟨.aside haside, haside.setup, haside.config⟩

theorem waits_disturb (disturbance : Disturbance) (controller : Controller) :
    Waits controller (controller.disturb disturbance) := by
  cases disturbance with
  | change register value => exact .aside (aside_change register value controller)
  | interrupt =>
      obtain ⟨hsetup, hconfig, -⟩ := onInterrupt_frame controller
      exact ⟨.single (.interrupt controller), hsetup, hconfig⟩

theorem waits_pause (world : World) (controller : Controller) :
    Waits controller (controller.pause world) := by
  have hdisturbed : ∀ (disturbances : List Disturbance) controller,
      Waits controller (disturbances.foldl disturb controller) := by
    intro disturbances
    induction disturbances with
    | nil => exact .refl
    | cons disturbance rest ih => exact fun controller => (waits_disturb ..).trans (ih _)
  exact (Waits.aside (aside_tick controller)).trans (hdisturbed ..)

theorem waits_waitFor (world : World) (condition : Controller → Bool) (microseconds : Nat)
    (controller : Controller) :
    Waits controller (waitFor world condition microseconds controller).2 := by
  induction microseconds generalizing controller with
  | zero => exact .refl controller
  | succ microseconds ih =>
      unfold waitFor
      split
      · exact .refl controller
      · exact (waits_pause world controller).trans (ih _)

/-! ## Waits and commands -/

theorem perform_wait (world : World) (condition : Controller → Bool) (controller : Controller) :
    (wait world condition).perform controller =
      (.ok (waitFor world condition waitBound controller).1,
        (waitFor world condition waitBound controller).2) :=
  rfl

/-- The state of a channel is returned if it is accepted in time. -/
theorem perform_awaitState (world : World) (channel : Nat) (accept : ChannelState → Bool)
    (controller : Controller) :
    (awaitState world channel accept).perform controller =
      match waitFor world (fun controller => accept (controller.channelState channel)) waitBound
          controller with
      | (true, reached) => (.ok (reached.channelState channel), reached)
      | (false, stuck) =>
          (.error .timeout,
            stuck.log (.stuck (.channel channel) (stuck.channelState channel))) := by
  rw [awaitState, Attempt.perform_bind_of_ok (perform_wait ..)]
  cases waitFor world (fun controller => accept (controller.channelState channel)) waitBound
      controller with
  | mk reached waited => cases reached <;> rfl

/-- A command is handed over if the debug interface gets idle in time. -/
theorem perform_execute (world : World) (thread : ThreadId) (command : Command)
    (controller : Controller) :
    (execute world thread command).perform controller =
      match waitFor world (!·.isDebugBusy) waitBound controller with
      | (true, idle) => (.ok true, idle.issue thread command)
      | (false, busy) => (.ok false, busy.log (.dropped command thread)) := by
  rw [execute, Attempt.perform_bind_of_ok (perform_wait ..)]
  cases waitFor world (!·.isDebugBusy) waitBound controller with
  | mk idle after => cases idle <;> rfl

end Controller

theorem Follows.steps {α : Type} {action : Attempt Controller α}
    (hfollows : Follows Controller.ThreadSteps action) : Follows Controller.Steps action :=
  hfollows.mono fun _ _ => Controller.ThreadSteps.steps

/-! ## What happens during waits -/

/-- Only what is allowed happens at a controller while its driver waits. -/
def World.Causes (allowed : Disturbance → Prop) (world : World) : Prop :=
  ∀ time, ∀ disturbance ∈ world time, allowed disturbance

theorem World.Causes.delayed {allowed : Disturbance → Prop} {world : World}
    (hworld : world.Causes allowed) (start : Nat) : (world.delayed start).Causes allowed := by
  intro time disturbance hmem
  unfold World.delayed at hmem
  split at hmem
  · exact hworld _ disturbance hmem
  · exact absurd hmem List.not_mem_nil

end CyclicDma
