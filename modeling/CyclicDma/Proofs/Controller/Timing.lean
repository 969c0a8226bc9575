import CyclicDma.Proofs.Controller.Waiting

/-! # What takes time

Time passes only when a driver pauses, a microsecond at a time, and each pause is
recorded. Whatever else is done to a controller takes no time, and neither does handling
its interrupts. So a wait takes until its condition is first found to hold, or all the
time it has if that does not happen.
-/

namespace CyclicDma.Controller

variable {before middle after controller : Controller} {world : World}
variable {condition : Controller → Bool} {microseconds first second : Nat} {inTime : Bool}

/-- How often the driver paused. -/
def delays (controller : Controller) : Nat :=
  controller.history.count .delay

/-- So many microseconds pass, no more and no less: the clock goes on by them, and a delay
is recorded for each. -/
structure Lasts (microseconds : Nat) (before after : Controller) : Prop where
  clock : after.clock = before.clock + microseconds
  delays : after.delays = before.delays + microseconds

theorem Lasts.trans (hfirst : Lasts first before middle) (hsecond : Lasts second middle after) :
    Lasts (first + second) before after where
  clock := by rw [hsecond.clock, hfirst.clock, Nat.add_assoc]
  delays := by rw [hsecond.delays, hfirst.delays, Nat.add_assoc]

theorem Lasts.then (hlasts : Lasts microseconds before middle) (hnone : Lasts 0 middle after) :
    Lasts microseconds before after :=
  hlasts.trans hnone

theorem Lasts.unique (hfirst : Lasts first before after) (hsecond : Lasts second before after) :
    first = second :=
  Nat.add_left_cancel (hfirst.clock.symm.trans hsecond.clock)

/-! ## What takes no time -/

theorem Lasts.of_eq (hclock : after.clock = before.clock)
    (hhistory : after.history = before.history) : Lasts 0 before after :=
  ⟨hclock, by rw [Controller.delays, Controller.delays, hhistory, Nat.add_zero]⟩

theorem Lasts.refl (controller : Controller) : Lasts 0 controller controller :=
  .of_eq rfl rfl

/-- Any event but a delay is recorded at once. -/
theorem Lasts.of_event (event : Event) (hevent : event ≠ .delay)
    (hclock : after.clock = before.clock) (hhistory : after.history = event :: before.history) :
    Lasts 0 before after :=
  ⟨hclock, by
    rw [Controller.delays, Controller.delays, hhistory, List.count_cons_of_ne hevent,
      Nat.add_zero]⟩

/-- What takes no time may be repeated. -/
theorem Lasts.foldl {α : Type} {step : Controller → α → Controller}
    (hstep : ∀ controller item, Lasts 0 controller (step controller item)) (items : List α)
    (controller : Controller) : Lasts 0 controller (items.foldl step controller) := by
  induction items generalizing controller with
  | nil => exact .refl controller
  | cons item items ih => exact (hstep controller item).trans (ih _)

theorem lasts_logAt (verbosity : Verbosity) (message : LogMessage) (controller : Controller) :
    Lasts 0 controller (controller.logAt verbosity message) := by
  unfold logAt
  split
  · exact .of_event (.log message) nofun rfl rfl
  · exact .refl controller

theorem lasts_log (message : LogMessage) (controller : Controller) :
    Lasts 0 controller (controller.log message) :=
  lasts_logAt ..

theorem lasts_change (register : Register) (value : UInt32) (controller : Controller) :
    Lasts 0 controller (controller.change register value) :=
  .of_event (.change register value) nofun rfl rfl

theorem lasts_changeAll (changes : List (Register × UInt32)) (controller : Controller) :
    Lasts 0 controller (controller.changeAll changes) :=
  .foldl (fun controller (register, value) => lasts_change register value controller) changes
    controller

theorem lasts_write (register : Register) (value : UInt32) (controller : Controller) :
    Lasts 0 controller (controller.write register value) :=
  .of_event (.write register value) nofun rfl rfl

theorem lasts_issue (thread : ThreadId) (command : Command) (controller : Controller) :
    Lasts 0 controller (controller.issue thread command) := by
  obtain ⟨registers, hissue, -⟩ := issue_eq thread command controller
  have hissued : Lasts 0 controller
      ({ controller with registers }.record (.issue thread command)) :=
    .of_event (.issue thread command) nofun rfl rfl
  rw [hissue]
  exact hissued.trans (lasts_log ..)

theorem lasts_silence (thread : ThreadId) (controller : Controller) :
    Lasts 0 controller (controller.silence thread) := by
  cases thread with
  | manager => exact .refl controller
  | channel channel =>
      unfold silence
      dsimp only
      split
      · exact (lasts_write ..).trans (lasts_write ..)
      · exact lasts_write ..

theorem lasts_updateNotifications (channel : Nat) (update : Notifications → Notifications)
    (controller : Controller) :
    Lasts 0 controller (controller.updateNotifications channel update) :=
  .of_eq rfl rfl

theorem lasts_noteAbort (channel : Nat) (controller : Controller) :
    Lasts 0 controller (controller.noteAbort channel) := by
  unfold noteAbort
  split
  · exact .of_eq rfl rfl
  · exact .refl controller

theorem lasts_markStopped (thread : ThreadId) (controller : Controller) :
    Lasts 0 controller (controller.markStopped thread) := by
  cases thread with
  | manager => exact .refl controller
  | channel channel => exact .of_eq rfl rfl

theorem lasts_pollPeriod (future : PeriodFuture) (waker : Waker) (controller : Controller) :
    Lasts 0 controller (controller.pollPeriod future waker).2 := by
  rcases pollPeriod_cases future waker controller with ⟨result, hready⟩ | hpending
  · rw [hready]
    exact .refl controller
  · rw [hpending]
    exact lasts_updateNotifications ..

/-! ## Handling interrupts -/

theorem lasts_abort (channel : Nat) (controller : Controller) :
    Lasts 0 controller (controller.abort channel) := by
  cases hbusy : controller.isDebugBusy with
  | true =>
      rw [abort_of_busy hbusy]
      exact .refl controller
  | false =>
      rw [abort_of_idle hbusy]
      exact ((lasts_issue ..).trans (lasts_silence ..)).trans
        ((lasts_log ..).trans (lasts_updateNotifications ..))

theorem lasts_onFault (channel : Nat) (controller : Controller) :
    Lasts 0 controller (controller.onFault channel) := by
  have hnoted := (lasts_updateNotifications channel ({ · with faulted := true }) controller).trans
    (lasts_log (.channelFault channel ⟨controller.read (.faultType channel)⟩) _)
  unfold onFault
  dsimp only
  split
  · exact hnoted
  · have htried := hnoted.trans (lasts_abort channel _)
    split
    · exact htried
    · exact htried.trans (lasts_log ..)

theorem lasts_serveChannel (raised faults : UInt32) (controller : Controller) (channel : Nat) :
    Lasts 0 controller (controller.serveChannel raised faults channel) := by
  have hcounted : Lasts 0 controller
      (if hasChannel raised channel then
        controller.updateNotifications channel Notifications.addPending
      else controller) := by
    split
    · exact lasts_updateNotifications ..
    · exact .refl controller
  unfold serveChannel
  dsimp only
  split
  · exact hcounted.trans (lasts_onFault ..)
  · exact hcounted

theorem lasts_onInterrupt (controller : Controller) :
    Lasts 0 controller controller.onInterrupt.2 := by
  have hacknowledged : ∀ raised, Lasts 0 controller
      (if raised = 0 then controller else controller.acknowledge raised) := by
    intro raised
    split
    · exact .refl controller
    · exact .of_event (.acknowledge raised) nofun rfl rfl
  unfold onInterrupt
  dsimp only
  generalize controller.read .interruptEnable &&& controller.read .eventStatus = raised
  refine Lasts.trans ?_ (Lasts.foldl (lasts_serveChannel _ _) _ _)
  specialize hacknowledged raised
  generalize (if raised = 0 then controller else controller.acknowledge raised) = acknowledged
    at hacknowledged ⊢
  split
  · exact hacknowledged.trans (lasts_log ..)
  · exact hacknowledged

/-! ## Pauses -/

theorem lasts_disturb (controller : Controller) (disturbance : Disturbance) :
    Lasts 0 controller (controller.disturb disturbance) := by
  cases disturbance with
  | change register value => exact lasts_change register value controller
  | interrupt => exact lasts_onInterrupt controller

/-- Whatever the world does in a pause, a microsecond passes. -/
theorem lasts_pause (world : World) (controller : Controller) :
    Lasts 1 controller (controller.pause world) := by
  have hticked : Lasts 1 controller
      ({ controller with clock := controller.clock + 1 }.record .delay) :=
    ⟨rfl, List.count_cons_self ..⟩
  exact hticked.trans (Lasts.foldl lasts_disturb _ _)

theorem lasts_later (world : World) (microseconds : Nat) (controller : Controller) :
    Lasts microseconds controller (later world microseconds controller) := by
  induction microseconds generalizing controller with
  | zero => exact .refl controller
  | succ microseconds ih =>
      have hlasts := (lasts_pause world controller).trans (ih (controller.pause world))
      rwa [Nat.add_comm] at hlasts

/-! ## Waits -/

/-- A condition is first found to hold at one moment only. -/
theorem FoundAfter.unique (hfirst : FoundAfter world condition controller first)
    (hsecond : FoundAfter world condition controller second) : first = second := by
  rcases Nat.lt_trichotomy first second with hlt | heq | hlt
  · cases hfirst.holds.symm.trans (hsecond.first first hlt)
  · exact heq
  · cases hsecond.holds.symm.trans (hfirst.first second hlt)

theorem NeverFound.not_foundAfter (hnever : NeverFound world condition controller)
    (hbound : microseconds ≤ waitBound) :
    ¬ FoundAfter world condition controller microseconds :=
  fun hfound => by cases hfound.holds.symm.trans (hnever microseconds hbound)

/-- How a wait for a condition ends, and when. It ends in time after so many microseconds
exactly if these are the fewest after which the condition holds, and no more than the
bound. It ends too late, after all the time it has, exactly if the condition holds neither
on entry nor after any number of microseconds up to the bound. -/
structure EndsExactly (world : World) (condition : Controller → Bool) (before : Controller)
    (inTime : Bool) (after : Controller) : Prop where
  found (microseconds : Nat) : inTime = true ∧ Lasts microseconds before after ↔
    microseconds ≤ waitBound ∧ FoundAfter world condition before microseconds
  never : inTime = false ∧ Lasts waitBound before after ↔ NeverFound world condition before

/-- What is done at once when a wait has ended does not matter. -/
theorem EndsExactly.then (hends : EndsExactly world condition before inTime middle)
    (hlasts : Lasts 0 middle after) : EndsExactly world condition before inTime after := by
  have hsame : ∀ microseconds,
      Lasts microseconds before after ↔ Lasts microseconds before middle := by
    refine fun microseconds => ⟨fun hafter => ?_, fun hmiddle => hmiddle.trans hlasts⟩
    exact ⟨hlasts.clock.symm.trans hafter.clock, hlasts.delays.symm.trans hafter.delays⟩
  exact ⟨fun microseconds => by rw [hsame, hends.found], by rw [hsame, hends.never]⟩

theorem endsExactly_waitFor (world : World) (condition : Controller → Bool)
    (before : Controller) :
    EndsExactly world condition before (waitFor world condition waitBound before).1
      (waitFor world condition waitBound before).2 := by
  rcases waitFor_cases world condition waitBound before with
    ⟨least, hleast, hfound, hwait⟩ | ⟨hnever, hwait⟩
  · rw [hwait]
    refine ⟨fun microseconds => ⟨fun ⟨_, hlasts⟩ => ?_, fun ⟨_, hother⟩ => ?_⟩,
      fun ⟨hlate, _⟩ => (by cases hlate), fun hnone => ?_⟩
    · rw [hlasts.unique (lasts_later ..)]
      exact ⟨hleast, hfound⟩
    · rw [hother.unique hfound]
      exact ⟨rfl, lasts_later ..⟩
    · exact (NeverFound.not_foundAfter hnone hleast hfound).elim
  · rw [hwait]
    dsimp only
    refine ⟨fun microseconds =>
        ⟨fun ⟨hintime, _⟩ => (by cases hintime), fun ⟨hbound, hfound⟩ => ?_⟩,
      fun _ => hnever, fun _ => ⟨rfl, lasts_later world waitBound before⟩⟩
    exact (NeverFound.not_foundAfter hnever hbound hfound).elim

/-- Each of the waits of a driver ends exactly: for any condition, for a channel to reach
an accepted state, and for the debug interface to become idle. -/
structure WaitsExactly (world : World) (before : Controller) : Prop where
  wait (condition : Controller → Bool) : ∃ inTime after,
    (Controller.wait world condition).perform before = (.ok inTime, after) ∧
      EndsExactly world condition before inTime after
  awaitState (channel : Nat) (accept : ChannelState → Bool) : ∃ inTime after,
    (Controller.awaitState world channel accept).perform before =
        (if inTime then .ok (after.channelState channel) else .error .timeout, after) ∧
      EndsExactly world (fun controller => accept (controller.channelState channel)) before
        inTime after
  execute (thread : ThreadId) (command : Command) : ∃ inTime after,
    (Controller.execute world thread command).perform before = (.ok inTime, after) ∧
      EndsExactly world (!·.isDebugBusy) before inTime after

theorem waitsExactly (world : World) (before : Controller) : WaitsExactly world before where
  wait condition := ⟨_, _, perform_wait .., endsExactly_waitFor ..⟩
  awaitState channel accept := by
    have hends := endsExactly_waitFor world
      (fun controller => accept (controller.channelState channel)) before
    rw [perform_awaitState]
    cases hwait : waitFor world (fun controller => accept (controller.channelState channel))
        waitBound before with
    | mk inTime waited =>
        rw [hwait] at hends
        cases inTime with
        | true => exact ⟨true, waited, rfl, hends⟩
        | false => exact ⟨false, _, rfl, hends.then (lasts_log ..)⟩
  execute thread command := by
    have hends := endsExactly_waitFor world (!·.isDebugBusy) before
    rw [perform_execute]
    cases hwait : waitFor world (!·.isDebugBusy) waitBound before with
    | mk inTime waited =>
        rw [hwait] at hends
        cases inTime with
        | true => exact ⟨true, _, rfl, hends.then (lasts_issue ..)⟩
        | false => exact ⟨false, _, rfl, hends.then (lasts_log ..)⟩

end CyclicDma.Controller
