import CyclicDma.Proofs.Controller.Limits
import CyclicDma.Proofs.Controller.Serving
import CyclicDma.Proofs.Controller.Settling

/-! # Limits that are reached

The hardware may keep a driver waiting until the last moment, again and again. A channel
that is about to fault then takes all the time of four waits to start, and of two waits to
stop, so there are no smaller limits than these.
-/

namespace CyclicDma

open Controller (waitBound)

/-- A world in which something only happens each time a wait is over that began when the
one before it ended. -/
def World.afterWaits (origin : Nat) (changes : Nat → List (Register × UInt32)) : World :=
  fun time =>
    if waitBound ∣ time - origin then
      (changes ((time - origin) / waitBound)).map fun change => .change change.1 change.2
    else []

theorem World.afterWaits_of_between {origin time : Nat} (waits : Nat)
    (changes : Nat → List (Register × UInt32)) (hafter : origin + waits * waitBound < time)
    (hbefore : time < origin + (waits + 1) * waitBound) :
    World.afterWaits origin changes time = [] := by
  refine if_neg fun ⟨ended, hended⟩ => ?_
  simp only [waitBound] at hafter hbefore hended
  omega

theorem World.afterWaits_of_end (origin waits : Nat) (changes : Nat → List (Register × UInt32)) :
    World.afterWaits origin changes (origin + waits * waitBound) =
      (changes waits).map fun change => .change change.1 change.2 := by
  unfold World.afterWaits
  rw [Nat.add_sub_cancel_left, if_pos (Nat.dvd_mul_left ..), Nat.mul_div_cancel _ (by decide)]

namespace Controller

variable {world : World} {before after : Controller} {condition : Controller → Bool}
variable {channel origin waits microseconds : Nat} {changes : Nat → List (Register × UInt32)}

/-! ## Registers during a wait -/

/-- The registers when some of them have taken values, one after the other. -/
def changed (values : List (Register × UInt32)) (registers : Registers) : Registers :=
  values.foldl (fun registers (register, value) => registers.write register value) registers

theorem registers_changeAll (values : List (Register × UInt32)) (controller : Controller) :
    (controller.changeAll values).registers = changed values controller.registers := by
  induction values generalizing controller with
  | nil => rfl
  | cons first rest ih => exact ih (controller.change first.1 first.2)

theorem registers_pause {values : List (Register × UInt32)}
    (hworld : world (before.clock + 1) =
      values.map fun change => Disturbance.change change.1 change.2) :
    (before.pause world).registers = changed values before.registers := by
  have hpause : before.pause world =
      ({ before with clock := before.clock + 1 }.record .delay).changeAll values := by
    change (world (before.clock + 1)).foldl disturb _ = _
    rw [hworld, List.foldl_map]
    rfl
  rw [hpause]
  exact registers_changeAll ..

/-- While nothing happens, the registers stay as they are. -/
theorem registers_later_of_quiet
    (hquiet : ∀ time, before.clock < time → time ≤ before.clock + microseconds → world time = []) :
    (later world microseconds before).registers = before.registers := by
  induction microseconds generalizing before with
  | zero => rfl
  | succ microseconds ih =>
      have hclock := (lasts_pause world before).clock
      have hnothing : world (before.clock + 1) = [] := hquiet _ (by omega) (by omega)
      have hpaused : (before.pause world).registers = before.registers :=
        @registers_pause world before [] hnothing
      exact (ih fun time hafter hbefore => hquiet time (by omega) (by omega)).trans hpaused

theorem registers_during (hclock : before.clock = origin + waits * waitBound)
    (hearly : microseconds < waitBound) :
    (later (World.afterWaits origin changes) microseconds before).registers = before.registers := by
  refine registers_later_of_quiet fun time hafter hbefore => ?_
  refine World.afterWaits_of_between waits changes (by omega) ?_
  rw [Nat.succ_mul]
  omega

theorem registers_end (hclock : before.clock = origin + waits * waitBound) :
    (later (World.afterWaits origin changes) waitBound before).registers =
      changed (changes (waits + 1)) before.registers := by
  obtain ⟨earlier, hearlier⟩ : ∃ earlier, waitBound = earlier + 1 := ⟨4999, rfl⟩
  have hkept : (later (World.afterWaits origin changes) earlier before).registers =
      before.registers := registers_during hclock (by omega)
  have hlate := (lasts_later (World.afterWaits origin changes) earlier before).clock
  rw [hearlier, later, Function.iterate_succ_apply', ← hkept]
  refine registers_pause ?_
  have hend : (later (World.afterWaits origin changes) earlier before).clock + 1 =
      origin + (waits + 1) * waitBound := by
    rw [Nat.succ_mul]
    omega
  exact (congrArg _ hend).trans (World.afterWaits_of_end ..)

/-! ## Waits that end in time -/

theorem waitFor_of_foundAfter (hfound : FoundAfter world condition before microseconds)
    (hbound : microseconds ≤ waitBound) :
    waitFor world condition waitBound before = (true, later world microseconds before) := by
  rcases waitFor_cases world condition waitBound before with
    ⟨least, hleast, hfirst, hwait⟩ | ⟨hnever, -⟩
  · rw [hwait, hfirst.unique hfound]
  · exact (NeverFound.not_foundAfter hnever hbound hfound).elim

theorem awaitState_of_foundAfter (accept : ChannelState → Bool)
    (hfound : FoundAfter world (fun controller => accept (controller.channelState channel)) before
      microseconds)
    (hbound : microseconds ≤ waitBound) :
    (awaitState world channel accept).perform before =
      (.ok ((later world microseconds before).channelState channel),
        later world microseconds before) := by
  rw [perform_awaitState, waitFor_of_foundAfter hfound hbound]

/-- A thread that has to be killed is killed as soon as the debug interface is found
idle. -/
theorem stopThread_of_foundAfter {thread : ThreadId} {state : ThreadState} {decided : Controller}
    (hdecide : (decidingState world thread).perform before = (.ok state, decided))
    (hlive : state.isStopping = false)
    (hidle : FoundAfter world (!·.isDebugBusy) decided microseconds)
    (hbound : microseconds ≤ waitBound) :
    (stopThread world thread).perform before =
      (.ok (), ((((later world microseconds decided).issue thread .kill).silence thread).log
        (.killed thread state)).markStopped thread) := by
  have hexecute : (execute world thread .kill).perform decided =
      (.ok true, (later world microseconds decided).issue thread .kill) := by
    rw [perform_execute, waitFor_of_foundAfter hidle hbound]
  unfold stopThread
  rw [Attempt.perform_bind_of_ok hdecide]
  dsimp only
  rw [hlive]
  exact Attempt.perform_bind_of_ok hexecute _

/-! ## A channel that is about to fault -/

/-- The channel faults, the debug interface executes a command, and the channel stops. Then
the interface is busy for good. -/
def lateChanges (channel : Nat) : Nat → List (Register × UInt32)
  | 1 => [(.status channel, 0xF), (.debugStatus, 1)]
  | 2 => [(.debugStatus, 0)]
  | 3 => [(.status channel, 0x0), (.debugStatus, 1)]
  | _ => []

/-- Everything that the driver waits for comes at the last moment, or not at all. -/
def dawdlingWorld (channel origin : Nat) : World :=
  .afterWaits origin (lateChanges channel)

/-- Some waits are over, and the channel and the debug interface are in a state. -/
structure Stands (channel origin waits : Nat) (state : ChannelState) (busy : Bool)
    (controller : Controller) : Prop where
  clock : controller.clock = origin + waits * waitBound
  state : controller.channelState channel = state
  debug : controller.isDebugBusy = busy

theorem Stands.stores {state : ChannelState} {busy : Bool} {values : List (Register × UInt32)}
    (hstands : Stands channel origin waits state busy before) (hstores : Stores values before after)
    (hvalues : ∀ written ∈ values, written.1 ∈ Register.driving) :
    Stands channel origin waits state busy after where
  clock := hstores.clock.trans hstands.clock
  state := by
    rw [channelState, hstores.read_of_not_driving hvalues (by simp [Register.driving])]
    exact hstands.state
  debug := by
    rw [isDebugBusy, hstores.read_of_not_driving hvalues (by simp [Register.driving])]
    exact hstands.debug

/-- When another wait is over, what the registers hold tells what has happened. -/
theorem Stands.next {state : ChannelState} {busy : Bool}
    (hstands : Stands channel origin waits state busy before) (status debug : UInt32)
    (hstatus : (changed (lateChanges channel (waits + 1)) before.registers).read
      (.status channel) = status)
    (hdebug : (changed (lateChanges channel (waits + 1)) before.registers).read
      .debugStatus = debug) :
    Stands channel origin (waits + 1) (.ofStatus status) (busyField.get debug = 1)
      (later (dawdlingWorld channel origin) waitBound before) where
  clock := by
    rw [(lasts_later ..).clock, hstands.clock, Nat.succ_mul, Nat.add_assoc]
  state := by
    rw [channelState, read, dawdlingWorld, registers_end hstands.clock, hstatus]
  debug := by
    rw [isDebugBusy, read, dawdlingWorld, registers_end hstands.clock, hdebug]

theorem Stands.faulting {busy : Bool}
    (hstands : Stands channel origin 0 .faultCompleting busy before) :
    Stands channel origin 1 .faulting true
      (later (dawdlingWorld channel origin) waitBound before) :=
  hstands.next 0xF 1 (by simp [changed, lateChanges, Registers.read_write_of_ne])
    (by simp [changed, lateChanges])

theorem Stands.idle (hstands : Stands channel origin 1 .faulting true before) :
    Stands channel origin 2 .faulting false
      (later (dawdlingWorld channel origin) waitBound before) := by
  rw [← hstands.state]
  exact hstands.next (before.read (.status channel)) 0
    (by simp [changed, lateChanges, Registers.read_write_of_ne, read])
    (by simp [changed, lateChanges])

theorem Stands.stopped (hstands : Stands channel origin 2 .faulting false before) :
    Stands channel origin 3 .stopped true
      (later (dawdlingWorld channel origin) waitBound before) :=
  hstands.next 0x0 1 (by simp [changed, lateChanges, Registers.read_write_of_ne])
    (by simp [changed, lateChanges])

theorem Stands.stuck (hstands : Stands channel origin 3 .stopped true before) :
    Stands channel origin 4 .stopped true
      (later (dawdlingWorld channel origin) waitBound before) := by
  rw [← hstands.state, ← hstands.debug]
  exact hstands.next (before.read (.status channel)) (before.read .debugStatus) rfl rfl

/-- Until the wait is over, nothing happens. -/
theorem Stands.during {state : ChannelState} {busy : Bool}
    (hstands : Stands channel origin waits state busy before) (hearly : microseconds < waitBound) :
    (later (dawdlingWorld channel origin) microseconds before).channelState channel = state ∧
      (later (dawdlingWorld channel origin) microseconds before).isDebugBusy = busy := by
  rw [channelState, isDebugBusy, read, read, dawdlingWorld, registers_during hstands.clock hearly]
  exact ⟨hstands.state, hstands.debug⟩

/-- A condition on the channel and the debug interface that holds when the wait is over,
but not before, is found at the last moment. -/
theorem Stands.foundAfter {state next : ChannelState} {busy idle : Bool}
    (hstands : Stands channel origin waits state busy before)
    (hnext : Stands channel origin (waits + 1) next idle
      (later (dawdlingWorld channel origin) waitBound before))
    (accept : ChannelState → Bool → Bool) (hnow : accept state busy = false)
    (hend : accept next idle = true) :
    FoundAfter (dawdlingWorld channel origin)
      (fun controller => accept (controller.channelState channel) controller.isDebugBusy)
      before waitBound where
  holds := by rw [hnext.state, hnext.debug, hend]
  first earlier hearlier := by
    obtain ⟨hstate, hdebug⟩ := hstands.during hearlier
    rw [hstate, hdebug, hnow]

theorem Stands.neverFound {state : ChannelState} {busy : Bool}
    (hstands : Stands channel origin waits state busy before)
    (hnext : Stands channel origin (waits + 1) state busy
      (later (dawdlingWorld channel origin) waitBound before))
    (accept : ChannelState → Bool → Bool) (hnow : accept state busy = false) :
    NeverFound (dawdlingWorld channel origin)
      (fun controller => accept (controller.channelState channel) controller.isDebugBusy)
      before := by
  intro microseconds hbound
  dsimp only
  rcases Nat.lt_or_eq_of_le hbound with hearly | rfl
  · obtain ⟨hstate, hdebug⟩ := hstands.during hearly
    rw [hstate, hdebug, hnow]
  · rw [hnext.state, hnext.debug, hnow]

/-! ## One wait after the other -/

theorem Stands.noted (hentry : before.channelState channel = .faultCompleting) :
    Stands channel before.clock 0 .faultCompleting (before.noteAbort channel).isDebugBusy
      (before.noteAbort channel) :=
  ⟨(lasts_noteAbort channel before).clock,
    (channelState_noteAbort channel before).trans hentry, rfl⟩

/-- The driver waits for the channel, and finds it faulting. -/
theorem Stands.awaitFaulting {busy : Bool}
    (hstands : Stands channel origin 0 .faultCompleting busy before) :
    ∃ after, (awaitState (dawdlingWorld channel origin) channel
        fun state => state = .faulting || state = .killing).perform before =
          (.ok .faulting, after) ∧
      Stands channel origin 1 .faulting true after ∧ Lasts waitBound before after := by
  have hfaulting := hstands.faulting
  have hfound := hstands.foundAfter hfaulting (fun state _ => state = .faulting || state = .killing)
    rfl rfl
  refine ⟨_, ?_, hfaulting, lasts_later _ waitBound before⟩
  rw [awaitState_of_foundAfter (fun state => state = .faulting || state = .killing) hfound
    (Nat.le_refl _), hfaulting.state]

/-- The driver waits for the debug interface, and kills the channel. -/
theorem Stands.stopThread {decided : Controller}
    (hstands : Stands channel origin 1 .faulting true decided)
    (hdecide : (decidingState (dawdlingWorld channel origin) (.channel channel)).perform before =
      (.ok (.channel .faulting), decided)) :
    ∃ after, (Controller.stopThread (dawdlingWorld channel origin) (.channel channel)).perform
        before = (.ok (), after) ∧
      Stands channel origin 2 .faulting false after ∧ Lasts waitBound decided after := by
  have hidle := hstands.idle
  have hfound := hstands.foundAfter hidle (fun _ busy => !busy) rfl rfl
  refine ⟨_, stopThread_of_foundAfter hdecide rfl hfound (Nat.le_refl _), ?_, ?_⟩
  · -- the kill itself changes neither the channel nor the debug interface
    exact hidle.stores (((stores_kill ..).quietly (stores_log ..)).quietly (stores_markStopped ..))
      (mem_driving_of_mem_killWrites _ (.channel channel))
  · refine (lasts_later (dawdlingWorld channel origin) waitBound decided).then ?_
    exact ((lasts_issue ..).trans (lasts_silence ..)).trans
      ((lasts_log ..).trans (lasts_markStopped ..))

/-- The driver waits for the channel, and finds it stopped. -/
theorem Stands.awaitStopped (hstands : Stands channel origin 2 .faulting false before) :
    ∃ after, (discard (awaitState (dawdlingWorld channel origin) channel
        (· = .stopped))).perform before = (.ok (), after) ∧
      Stands channel origin 3 .stopped true after ∧ Lasts waitBound before after := by
  have hstopped := hstands.stopped
  have hfound := hstands.foundAfter hstopped (fun state _ => state = .stopped) rfl rfl
  refine ⟨_, ?_, hstopped, lasts_later _ waitBound before⟩
  exact Attempt.perform_bind_of_ok
    (awaitState_of_foundAfter (· = .stopped) hfound (Nat.le_refl _)) _

/-- The driver waits for the debug interface, and gives up. -/
theorem Stands.lasts_trigger (hstands : Stands channel origin 3 .stopped true before)
    (hidle : before.wasStarted channel = false)
    (htransfer : (before.transfer? channel).isSome = true) :
    Lasts waitBound before ((trigger (dawdlingWorld channel origin) channel).perform before).2 := by
  have hunmasked : Stands channel origin 3 .stopped true (before.unmaskEvent channel) :=
    hstands.stores (stores_write ..) (by simp [Register.driving])
  have hnever := hunmasked.neverFound hunmasked.stuck (fun _ busy => !busy) rfl
  obtain ⟨hlate, hlasts⟩ := (endsExactly_waitFor _ _ _).never.mpr hnever
  have htriggers := triggers_trigger (dawdlingWorld channel origin) channel before
  generalize (trigger (dawdlingWorld channel origin) channel).perform before = outcome
    at htriggers ⊢
  cases htriggers with
  | leave hbusy => simp [hstands.state, hidle] at hbusy
  | refuse hnone => simp [hnone] at htransfer
  | launch _ _ _ hwaited =>
      rw [hwaited] at hlate
      cases hlate
  | drop _ _ _ hwaited =>
      rw [hwaited] at hlasts
      have hwaits := (lasts_write ..).trans hlasts
      rw [Nat.zero_add] at hwaits
      exact hwaits.then ((lasts_log ..).trans (lasts_write ..))

/-- A channel that is about to fault takes all the time of two waits to stop. -/
theorem lasts_stop_dawdling (hentry : before.channelState channel = .faultCompleting) :
    Lasts (2 * waitBound) before
      ((stop (dawdlingWorld channel before.clock) channel).perform before).2 := by
  have hnoted := Stands.noted hentry
  obtain ⟨faulted, hawait, hfaulted, hfirst⟩ := hnoted.awaitFaulting
  have hdecide : (decidingState (dawdlingWorld channel before.clock) (.channel channel)).perform
      (before.noteAbort channel) = (.ok (.channel .faulting), faulted) := by
    unfold decidingState
    rw [Attempt.perform_bind, Attempt.perform_get]
    dsimp only [threadState]
    rw [hnoted.state]
    exact Attempt.perform_bind_of_ok hawait _
  obtain ⟨killed, hstop, -, hsecond⟩ := hfaulted.stopThread hdecide
  have hlasts := (lasts_noteAbort channel before).trans (hfirst.trans hsecond)
  rw [Nat.zero_add, ← Nat.two_mul] at hlasts
  rwa [perform_stop, hstop]

/-- Bringing the channel to a stop takes all the time of three waits. -/
theorem Stands.settle {busy : Bool}
    (hstands : Stands channel origin 0 .faultCompleting busy before) :
    ∃ after, (Controller.settle (dawdlingWorld channel origin) channel .faultCompleting).perform
        before = (.ok (), after) ∧
      Stands channel origin 3 .stopped true after ∧ Lasts (3 * waitBound) before after := by
  obtain ⟨faulted, hawait, hfaulted, hfirst⟩ := hstands.awaitFaulting
  have hdecide : (decidingState (dawdlingWorld channel origin) (.channel channel)).perform
      faulted = (.ok (.channel .faulting), faulted) := by
    unfold decidingState
    rw [Attempt.perform_bind, Attempt.perform_get]
    dsimp only [threadState]
    rw [hfaulted.state]
    rfl
  obtain ⟨killed, hstop, hkilled, hsecond⟩ := hfaulted.stopThread hdecide
  obtain ⟨settled, hstopped, hsettled, hthird⟩ := hkilled.awaitStopped
  refine ⟨settled, ?_, hsettled, ?_⟩
  · exact (Attempt.perform_bind_of_ok hawait _).trans
      ((Attempt.perform_bind_of_ok hstop _).trans hstopped)
  · have hlasts := (hfirst.trans hsecond).trans hthird
    rwa [← Nat.two_mul, ← Nat.succ_mul] at hlasts

/-- A channel that was brought to a stop from a fault can be launched if it could before. -/
theorem launchable_of_settle {settled : Controller}
    (hfault : (before.channelState channel).isFault = true)
    (hsettle : (settle world channel (before.channelState channel)).perform before =
      (.ok (), settled)) :
    settled.wasStarted channel = false ∧
      settled.transfer? channel = before.transfer? channel := by
  have hsettling := settling_settle world channel before
  have hsteps : ThreadSteps before
      ((settle world channel (before.channelState channel)).perform before).2 :=
    follows_settle world channel (before.channelState channel) before
  rw [hsettle] at hsettling hsteps
  refine ⟨?_, hsteps.submitted.2 channel⟩
  rw [hsettling.started, hfault, Bool.not_true, Bool.and_false]

/-- A channel that is about to fault, and for which a transfer was submitted, takes all the
time of four waits to start. -/
theorem lasts_start_dawdling (hentry : before.channelState channel = .faultCompleting)
    (htransfer : (before.transfer? channel).isSome = true) :
    Lasts (4 * waitBound) before
      ((start (dawdlingWorld channel before.clock) channel).perform before).2 := by
  have hnoted := Stands.noted hentry
  obtain ⟨settled, hsettle, hsettled, hwaits⟩ := hnoted.settle
  rw [← hnoted.state] at hsettle
  obtain ⟨hidle, hkept⟩ := launchable_of_settle (by rw [hnoted.state]; rfl) hsettle
  have hsubmitted : (settled.transfer? channel).isSome = true := by
    rwa [hkept, (threadSteps_noteAbort channel before).submitted.2 channel]
  have hstart : (start (dawdlingWorld channel before.clock) channel).perform before =
      (trigger (dawdlingWorld channel before.clock) channel).perform settled := by
    rw [perform_start, startThread, Attempt.perform_bind, Attempt.perform_get]
    dsimp only
    rw [hnoted.state] at hsettle ⊢
    exact Attempt.perform_bind_of_ok hsettle _
  have hlasts := (lasts_noteAbort channel before).trans
    (hwaits.trans (hsettled.lasts_trigger hidle hsubmitted))
  rw [Nat.zero_add, ← Nat.succ_mul] at hlasts
  rwa [hstart]

end Controller

end CyclicDma
