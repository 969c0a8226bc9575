import CyclicDma.Controller.Period
import CyclicDma.Controller.Submit
import CyclicDma.Proofs.Attempt

/-! # Verbosity

Messages are recorded and never looked at. Next to a controller that records all of them,
the same controller with another verbosity does the same things at the same time, and its
history lacks the messages that its verbosity does not admit.
-/

namespace CyclicDma

/-- The event is recorded with the verbosity. -/
def Event.isAdmitted (verbosity : Verbosity) : Event → Bool
  | log message => message.level.isAdmitted verbosity
  | _ => true

theorem LogLevel.isAdmitted_trace (level : LogLevel) : level.isAdmitted (some .trace) = true := by
  cases level <;> rfl

theorem Event.isAdmitted_trace (event : Event) : event.isAdmitted (some .trace) = true := by
  cases event with
  | log message => exact message.level.isAdmitted_trace
  | _ => rfl

/-- How a history is seen: with a verbosity, and after what happened before. -/
structure View where
  verbosity : Verbosity
  past : List Event

namespace Controller

/-- The controller as it would be with the verbosity of the view, and its past. -/
def abridged (view : View) (controller : Controller) : Controller :=
  { controller with
    config := controller.config.withVerbosity view.verbosity
    history := controller.history.filter (·.isAdmitted view.verbosity) ++ view.past }

theorem abridged_record (view : View) (event : Event) (controller : Controller) :
    (controller.record event).abridged view =
      if event.isAdmitted view.verbosity then (controller.abridged view).record event
      else controller.abridged view := by
  rw [record, abridged, List.filter_cons]
  split
  · rfl
  · rfl

/-- The loud controller records all messages, and the quiet one is the same as far as the
view goes. -/
structure Mirrors (view : View) (quiet loud : Controller) : Prop where
  abridged : quiet = loud.abridged view
  loud : loud.config.verbosity = some .trace

namespace Mirrors

variable {view : View} {quiet loud : Controller}

/-! ## What messages have to do with -/

/-- What does not depend on messages is the same. -/
theorem query {α : Type} {query : Controller → α}
    (hquery : ∀ view controller, query (Controller.abridged view controller) = query controller)
    (hmirrors : Mirrors view quiet loud) : query quiet = query loud :=
  hmirrors.abridged ▸ hquery view loud

theorem read (hmirrors : Mirrors view quiet loud) (register : Register) :
    quiet.read register = loud.read register :=
  hmirrors.query fun _ _ => rfl

theorem notificationsOf (hmirrors : Mirrors view quiet loud) (channel : Nat) :
    quiet.notificationsOf channel = loud.notificationsOf channel :=
  hmirrors.query fun _ _ => rfl

theorem managed (hmirrors : Mirrors view quiet loud) : quiet.managed = loud.managed :=
  hmirrors.query fun _ _ => rfl

theorem setup (hmirrors : Mirrors view quiet loud) : quiet.setup = loud.setup :=
  hmirrors.query fun _ _ => rfl

theorem channelState (hmirrors : Mirrors view quiet loud) (channel : Nat) :
    quiet.channelState channel = loud.channelState channel :=
  hmirrors.query fun _ _ => rfl

theorem isRunning (hmirrors : Mirrors view quiet loud) (channel : Nat) :
    quiet.isRunning channel = loud.isRunning channel :=
  hmirrors.query fun _ _ => rfl

/-- A change that has nothing to do with messages may happen to both. -/
theorem map {change : Controller → Controller}
    (hchange : ∀ view controller,
      change (Controller.abridged view controller) = (change controller).abridged view)
    (hconfig : ∀ controller, (change controller).config = controller.config)
    (hmirrors : Mirrors view quiet loud) : Mirrors view (change quiet) (change loud) where
  abridged := by rw [hmirrors.abridged, hchange]
  loud := by rw [hconfig, hmirrors.loud]

/-- An event that is no message is recorded by both. -/
theorem record {event : Event} (hevent : ∀ verbosity, event.isAdmitted verbosity = true)
    (hmirrors : Mirrors view quiet loud) :
    Mirrors view (quiet.record event) (loud.record event) where
  abridged := by rw [hmirrors.abridged, abridged_record, if_pos (hevent view.verbosity)]
  loud := hmirrors.loud

theorem log (hmirrors : Mirrors view quiet loud) (message : LogMessage) :
    Mirrors view (quiet.log message) (loud.log message) := by
  have hrecorded : loud.log message = loud.record (.log message) := by
    rw [Controller.log, logAt, hmirrors.loud, if_pos message.level.isAdmitted_trace]
  rw [hrecorded]
  refine ⟨?_, hmirrors.loud⟩
  rw [abridged_record, hmirrors.abridged]
  rfl

theorem ite {condition : Prop} [Decidable condition] {quiet' loud' : Controller}
    (hthen : Mirrors view quiet loud) (helse : Mirrors view quiet' loud') :
    Mirrors view (if condition then quiet else quiet') (if condition then loud else loud') := by
  split
  · exact hthen
  · exact helse

theorem updateNotifications (hmirrors : Mirrors view quiet loud) (channel : Nat)
    (update : Notifications → Notifications) :
    Mirrors view (quiet.updateNotifications channel update)
      (loud.updateNotifications channel update) :=
  hmirrors.map (fun _ _ => rfl) fun _ => rfl

theorem mapSetup (hmirrors : Mirrors view quiet loud) (change : Option Setup → Option Setup) :
    Mirrors view { quiet with setup := change quiet.setup }
      { loud with setup := change loud.setup } :=
  @map view quiet loud (fun controller => { controller with setup := change controller.setup })
    (fun _ _ => rfl) (fun _ => rfl) hmirrors

theorem updateRequest (hmirrors : Mirrors view quiet loud) (channel : Nat)
    (update : Request → Request) :
    Mirrors view (quiet.updateRequest channel update) (loud.updateRequest channel update) :=
  hmirrors.mapSetup (Option.map _)

theorem mapRegisters (hmirrors : Mirrors view quiet loud) (change : Registers → Registers) :
    Mirrors view { quiet with registers := change quiet.registers }
      { loud with registers := change loud.registers } :=
  @map view quiet loud (fun controller =>
    { controller with registers := change controller.registers }) (fun _ _ => rfl) (fun _ => rfl)
    hmirrors

theorem write (hmirrors : Mirrors view quiet loud) (register : Register) (value : UInt32) :
    Mirrors view (quiet.write register value) (loud.write register value) :=
  (hmirrors.mapRegisters (·.write register value)).record fun _ => rfl

theorem change (hmirrors : Mirrors view quiet loud) (register : Register) (value : UInt32) :
    Mirrors view (quiet.change register value) (loud.change register value) :=
  (hmirrors.mapRegisters (·.write register value)).record fun _ => rfl

theorem changeAll (hmirrors : Mirrors view quiet loud) (changes : List (Register × UInt32)) :
    Mirrors view (quiet.changeAll changes) (loud.changeAll changes) :=
  List.foldl_rel hmirrors fun change _ _ _ hmirrors => hmirrors.change change.1 change.2

theorem acknowledge (hmirrors : Mirrors view quiet loud) (raised : UInt32) :
    Mirrors view (quiet.acknowledge raised) (loud.acknowledge raised) :=
  (hmirrors.mapRegisters (·.write .interruptClear raised)).record fun _ => rfl

/-! ## The debug interface and interrupts -/

theorem issue (hmirrors : Mirrors view quiet loud) (thread : ThreadId) (command : Command) :
    Mirrors view (quiet.issue thread command) (loud.issue thread command) := by
  have hwritten := hmirrors.mapRegisters fun registers =>
    (Event.issue thread command).writes.foldl
      (fun registers (write : Register × UInt32) => registers.write write.1 write.2) registers
  have hevent : ∀ verbosity, (Event.issue thread command).isAdmitted verbosity = true :=
    fun _ => rfl
  exact (hwritten.record hevent).log _

theorem unmaskEvent (hmirrors : Mirrors view quiet loud) (channel : Nat) :
    Mirrors view (quiet.unmaskEvent channel) (loud.unmaskEvent channel) := by
  rw [Controller.unmaskEvent, hmirrors.read]
  exact hmirrors.write ..

theorem maskEvent (hmirrors : Mirrors view quiet loud) (channel : Nat) :
    Mirrors view (quiet.maskEvent channel) (loud.maskEvent channel) := by
  rw [Controller.maskEvent, hmirrors.read]
  exact hmirrors.write ..

theorem silence (hmirrors : Mirrors view quiet loud) (thread : ThreadId) :
    Mirrors view (quiet.silence thread) (loud.silence thread) := by
  cases thread with
  | manager => exact hmirrors
  | channel channel =>
      refine maskEvent ?_ channel
      rw [hmirrors.read]
      exact .ite (hmirrors.write ..) hmirrors

theorem abort (hmirrors : Mirrors view quiet loud) (channel : Nat) :
    Mirrors view (quiet.abort channel) (loud.abort channel) := by
  have hbusy : quiet.isDebugBusy = loud.isDebugBusy := hmirrors.query fun _ _ => rfl
  rw [Controller.abort, Controller.abort, hbusy]
  exact .ite hmirrors ((((hmirrors.issue ..).silence _).log _).updateNotifications ..)

theorem onFault (hmirrors : Mirrors view quiet loud) (channel : Nat) :
    Mirrors view (quiet.onFault channel) (loud.onFault channel) := by
  unfold Controller.onFault
  dsimp only
  rw [hmirrors.read]
  have hnoted := (hmirrors.updateNotifications channel ({ · with faulted := true })).log
    (.channelFault channel ⟨loud.read (.faultType channel)⟩)
  have htried := hnoted.abort channel
  rw [hnoted.notificationsOf, htried.notificationsOf]
  exact .ite hnoted (.ite htried (htried.log _))

theorem serveChannel (hmirrors : Mirrors view quiet loud) (raised faults : UInt32)
    (channel : Nat) :
    Mirrors view (quiet.serveChannel raised faults channel)
      (loud.serveChannel raised faults channel) := by
  have hcounted : Mirrors view
      (if hasChannel raised channel then
        quiet.updateNotifications channel Notifications.addPending else quiet) _ :=
    .ite (hmirrors.updateNotifications channel Notifications.addPending) hmirrors
  exact .ite (hcounted.onFault channel) hcounted

theorem serveChannels (hmirrors : Mirrors view quiet loud) (raised faults : UInt32) :
    Mirrors view
      ((List.range quiet.managed).foldl (Controller.serveChannel raised faults) quiet)
      ((List.range loud.managed).foldl (Controller.serveChannel raised faults) loud) := by
  rw [hmirrors.managed]
  exact List.foldl_rel hmirrors fun channel _ _ _ hmirrors => hmirrors.serveChannel ..

/-- Handling interrupts tells the same of both. -/
theorem onInterrupt (hmirrors : Mirrors view quiet loud) :
    Agree (Mirrors view) quiet.onInterrupt loud.onInterrupt := by
  have hacknowledged : Mirrors view
      (if loud.read .interruptEnable &&& loud.read .eventStatus = 0 then quiet
        else quiet.acknowledge (loud.read .interruptEnable &&& loud.read .eventStatus)) _ :=
    .ite hmirrors (hmirrors.acknowledge _)
  unfold Controller.onInterrupt
  dsimp only
  rw [hmirrors.read, hmirrors.read, hacknowledged.read, hacknowledged.read, hacknowledged.read]
  exact ⟨rfl, (ite (hacknowledged.log _) hacknowledged).serveChannels ..⟩

theorem setRunning (hmirrors : Mirrors view quiet loud) (running : Bool) (channel : Nat) :
    Mirrors view (quiet.setRunning running channel) (loud.setRunning running channel) :=
  hmirrors.updateRequest ..

theorem noteAbort (hmirrors : Mirrors view quiet loud) (channel : Nat) :
    Mirrors view (quiet.noteAbort channel) (loud.noteAbort channel) := by
  rw [Controller.noteAbort, Controller.noteAbort, hmirrors.notificationsOf]
  exact .ite ((hmirrors.updateNotifications ..).setRunning ..) hmirrors

theorem markStopped (hmirrors : Mirrors view quiet loud) (thread : ThreadId) :
    Mirrors view (quiet.markStopped thread) (loud.markStopped thread) := by
  cases thread with
  | manager => exact hmirrors
  | channel channel => exact hmirrors.setRunning ..

/-- Polling a future gives the same at both. -/
theorem pollPeriod (hmirrors : Mirrors view quiet loud) (future : PeriodFuture) (waker : Waker) :
    Agree (Mirrors view) (quiet.pollPeriod future waker) (loud.pollPeriod future waker) := by
  unfold Controller.pollPeriod
  dsimp only
  rw [hmirrors.notificationsOf, hmirrors.isRunning, hmirrors.channelState]
  split
  · exact ⟨rfl, hmirrors⟩
  · split
    · exact ⟨rfl, hmirrors⟩
    · exact ⟨rfl, hmirrors.updateNotifications ..⟩

/-! ## Waiting -/

theorem disturb (hmirrors : Mirrors view quiet loud) (disturbance : Disturbance) :
    Mirrors view (quiet.disturb disturbance) (loud.disturb disturbance) := by
  cases disturbance with
  | change register value => exact hmirrors.change ..
  | interrupt => exact hmirrors.onInterrupt.2

theorem pause (hmirrors : Mirrors view quiet loud) (world : World) :
    Mirrors view (quiet.pause world) (loud.pause world) := by
  have hclock : quiet.clock = loud.clock := hmirrors.query fun _ _ => rfl
  have hlater : Mirrors view { quiet with clock := quiet.clock + 1 }
      { loud with clock := loud.clock + 1 } :=
    @map view quiet loud (fun controller => { controller with clock := controller.clock + 1 })
      (fun _ _ => rfl) (fun _ => rfl) hmirrors
  have hdelayed : ∀ verbosity, Event.delay.isAdmitted verbosity = true := fun _ => rfl
  unfold Controller.pause
  dsimp only [Controller.record]
  rw [hclock] at hlater ⊢
  exact List.foldl_rel (hlater.record hdelayed) fun disturbance _ _ _ hmirrors =>
    hmirrors.disturb disturbance

/-- A wait takes the same time. -/
theorem waitFor {condition : Controller → Bool}
    (hcondition : ∀ view controller,
      condition (Controller.abridged view controller) = condition controller)
    (world : World) (microseconds : Nat) (hmirrors : Mirrors view quiet loud) :
    Agree (Mirrors view) (Controller.waitFor world condition microseconds quiet)
      (Controller.waitFor world condition microseconds loud) := by
  induction microseconds generalizing quiet loud with
  | zero => exact ⟨hmirrors.query hcondition, hmirrors⟩
  | succ microseconds ih =>
      unfold Controller.waitFor
      rw [hmirrors.query hcondition]
      split
      · exact ⟨rfl, hmirrors⟩
      · exact ih (hmirrors.pause world)

end Mirrors

/-- The controller before anything was recorded, ready to record all messages. -/
def bare (controller : Controller) : Controller :=
  { controller with
    config := controller.config.withVerbosity (some .trace)
    history := [] }

/-- The controller as it would be if no message had been recorded. -/
def muted (controller : Controller) : Controller :=
  controller.abridged ⟨none, []⟩

/-- A controller is what is seen of it without its history. -/
theorem mirrors_bare (controller : Controller) :
    Mirrors ⟨controller.config.verbosity, controller.history⟩ controller controller.bare :=
  ⟨rfl, rfl⟩

/-- The controllers differ in verbosity and history at most, and the history of the one adds
to the past what a verbosity admits of the other. -/
structure Echoes (verbosity : Verbosity) (past : List Event) (quiet loud : Controller) : Prop where
  bare : quiet.bare = loud.bare
  history : quiet.history = loud.history.filter (·.isAdmitted verbosity) ++ past

/-- Histories that differ in messages only make controllers that do so. -/
theorem Echoes.muted_eq {verbosity verbosity' : Verbosity} {past past' : List Event}
    {first second loud : Controller} (hfirst : Echoes verbosity past first loud)
    (hsecond : Echoes verbosity' past' second loud)
    (hpast : past.filter (·.isAdmitted none) = past'.filter (·.isAdmitted none)) :
    first.muted = second.muted := by
  have hmuted : ∀ controller : Controller, controller.muted =
      { controller.bare with
        config := controller.bare.config.withVerbosity none
        history := controller.history.filter (·.isAdmitted none) ++ [] } := fun _ => rfl
  have hfiltered : ∀ (verbosity : Verbosity) (history : List Event),
      (history.filter (·.isAdmitted verbosity)).filter (·.isAdmitted none) =
        history.filter (·.isAdmitted none) := by
    intro verbosity history
    rw [List.filter_filter]
    refine List.filter_congr fun event _ => ?_
    cases event <;> rfl
  rw [hmuted, hmuted, hfirst.bare, hsecond.bare, hfirst.history, hsecond.history,
    List.filter_append, List.filter_append, hfiltered, hfiltered, hpast]

theorem Mirrors.echoes {view : View} {quiet loud : Controller}
    (hmirrors : Mirrors view quiet loud) : Echoes view.verbosity view.past quiet loud := by
  rw [hmirrors.abridged]
  exact ⟨rfl, rfl⟩

theorem echoes_logAt (verbosity : Verbosity) (message : LogMessage) (controller : Controller) :
    Echoes verbosity controller.history (controller.logAt verbosity message)
      (controller.bare.logAt (some .trace) message) := by
  rw [logAt, logAt, if_pos message.level.isAdmitted_trace]
  split
  next hadmitted => exact ⟨rfl, by simp [record, Controller.bare, Event.isAdmitted, hadmitted]⟩
  next hleft => exact ⟨rfl, by simp [record, Controller.bare, Event.isAdmitted, hleft]⟩

/-! ## Operations of channels -/

section

variable {view : View} (world : World)

theorem respects_wait {condition : Controller → Bool}
    (hcondition : ∀ view controller,
      condition (Controller.abridged view controller) = condition controller) :
    Respects (Mirrors view) (wait world condition) := by
  intro quiet loud hmirrors
  obtain ⟨hreached, hafter⟩ := hmirrors.waitFor hcondition world waitBound
  exact ⟨congrArg Except.ok hreached, hafter⟩

theorem respects_log (message : LogMessage) :
    Respects (Mirrors view) (modify (·.log message) : Attempt Controller PUnit) :=
  respects_modify fun _ _ hmirrors => hmirrors.log message

theorem respects_awaitState (channel : Nat) (accept : ChannelState → Bool) :
    Respects (Mirrors view) (awaitState world channel accept) := by
  refine (respects_wait world fun _ _ => rfl).bind fun reached => ?_
  refine respects_get_bind ?_ fun controller => ?_
  · rintro _ loud ⟨rfl, -⟩
    rfl
  · split
    · exact respects_pure _
    · exact (respects_log _).bind fun _ => respects_throw _

theorem respects_execute (thread : ThreadId) (command : Command) :
    Respects (Mirrors view) (execute world thread command) := by
  refine (respects_wait world fun _ _ => rfl).bind fun idle => ?_
  split
  · exact (respects_modify fun _ _ hmirrors => hmirrors.issue ..).bind fun _ => respects_pure _
  · exact (respects_log _).bind fun _ => respects_pure _

theorem respects_decidingState (thread : ThreadId) :
    Respects (Mirrors view) (decidingState world thread) := by
  refine respects_get_bind ?_ fun controller => ?_
  · rintro _ loud ⟨rfl, -⟩
    rfl
  · split
    · exact (respects_awaitState world _ _).bind fun _ => respects_pure _
    · exact respects_pure _

theorem respects_stopThread (thread : ThreadId) :
    Respects (Mirrors view) (stopThread world thread) := by
  refine (respects_decidingState world thread).bind fun state => ?_
  have hmark : Respects (Mirrors view) (modify (·.markStopped thread) : Attempt Controller PUnit) :=
    respects_modify fun _ _ hmirrors => hmirrors.markStopped thread
  dsimp only
  split
  · refine (respects_execute world thread .kill).bind fun idle => ?_
    split
    · refine (respects_modify fun _ _ hmirrors => hmirrors.silence thread).bind fun _ => ?_
      exact (respects_log _).bind fun _ => hmark
    · exact (respects_throw _).bind fun _ => hmark
  · exact hmark

theorem respects_noteAbort (channel : Nat) :
    Respects (Mirrors view) (modify (·.noteAbort channel) : Attempt Controller PUnit) :=
  respects_modify fun _ _ hmirrors => hmirrors.noteAbort channel

theorem respects_stop (channel : Nat) : Respects (Mirrors view) (stop world channel) :=
  (respects_noteAbort channel).bind fun _ => respects_stopThread world _

theorem respects_awaitStopped (channel : Nat) :
    Respects (Mirrors view) (discard (awaitState world channel (· = .stopped))) :=
  (respects_awaitState world channel _).bind fun _ => respects_pure _

theorem respects_settle (channel : Nat) (entry : ChannelState) :
    Respects (Mirrors view) (settle world channel entry) := by
  -- each wait is looked at once, however the ones before it ended
  have hstopped : Respects (Mirrors view)
      (if entry ≠ .stopped then discard (awaitState world channel (· = .stopped))
      else pure ()) := by
    split
    · exact respects_awaitStopped world channel
    · exact respects_pure _
  unfold settle
  dsimp only
  generalize (if entry ≠ .stopped then
    discard (awaitState world channel (· = .stopped)) else pure ()) = waiting at hstopped ⊢
  have hkilled : Respects (Mirrors view)
      (if entry.isFault = true then do
        stopThread world (.channel channel)
        waiting
      else waiting) := by
    split
    · exact (respects_stopThread world _).bind fun _ => hstopped
    · exact hstopped
  generalize (if entry.isFault = true then do
      stopThread world (.channel channel)
      waiting
    else waiting) = killing at hkilled ⊢
  split
  · refine (respects_awaitState world channel _).bind fun reached => ?_
    split
    · exact (respects_awaitStopped world channel).bind fun _ => hkilled
    · exact hkilled
  · exact hkilled

theorem respects_trigger (channel : Nat) : Respects (Mirrors view) (trigger world channel) := by
  refine respects_get_bind ?_ fun controller => ?_
  · rintro _ loud ⟨rfl, -⟩
    rfl
  dsimp only
  split
  · exact respects_pure _
  split
  next setup _ =>
    have hlaunch : Respects (Mirrors view) (do
        modify (·.unmaskEvent channel)
        if ← execute world (.channel channel)
            (.go channel (setup.slabAddress channel) setup.device.nonsecure) then
          modify (·.setRunning true channel)
          modify (·.log (.started (.channel channel) (setup.slabAddress channel)))
        else
          modify (·.maskEvent channel)
          throw .timeout : Attempt Controller PUnit) := by
      refine (respects_modify fun _ _ hmirrors => hmirrors.unmaskEvent channel).bind fun _ => ?_
      refine (respects_execute world _ _).bind fun idle => ?_
      split
      · refine (respects_modify fun _ _ hmirrors => hmirrors.setRunning ..).bind fun _ => ?_
        exact respects_log _
      · refine (respects_modify fun _ _ hmirrors => hmirrors.maskEvent channel).bind fun _ => ?_
        exact respects_throw _
    split
    · exact (respects_throw _).bind fun _ => hlaunch
    · exact hlaunch
  · exact respects_throw _

theorem respects_startThread (channel : Nat) :
    Respects (Mirrors view) (startThread world channel) := by
  refine respects_get_bind ?_ fun controller => ?_
  · rintro _ loud ⟨rfl, -⟩
    rfl
  dsimp only
  split
  · exact respects_pure _
  split
  · exact (respects_log _).bind fun _ => respects_throw _
  · exact (respects_settle world channel _).bind fun _ => respects_trigger world channel

theorem respects_start (channel : Nat) : Respects (Mirrors view) (start world channel) :=
  (respects_noteAbort channel).bind fun _ => respects_startThread world channel

theorem respects_install (transfer : Transfer) (channel : Nat) (setup : Setup) :
    Respects (Mirrors view) (install transfer channel setup) := by
  have hset : ∀ transfer, Respects (Mirrors view)
      (modify (·.setTransfer transfer channel) : Attempt Controller PUnit) := fun transfer =>
    respects_modify fun _ _ hmirrors => hmirrors.updateRequest ..
  refine (hset none).bind fun _ => ?_
  split
  · exact respects_throw _
  · refine (respects_modify fun _ _ hmirrors => ?_).bind fun _ => ?_
    · exact hmirrors.mapSetup (Option.map _)
    · exact (hset _).bind fun _ => respects_log _

theorem respects_submit (channel : Nat) (order : Order) :
    Respects (Mirrors view) (submit world channel order) := by
  refine (respects_noteAbort channel).bind fun _ => respects_get_bind ?_ fun controller => ?_
  · rintro _ loud ⟨rfl, -⟩
    rfl
  dsimp only
  split
  next setup _ =>
    have hinstall : Respects (Mirrors view) (do
        install (order.transfer controller.config) channel setup
        start world channel : Attempt Controller PUnit) :=
      (respects_install _ channel setup).bind fun _ => respects_start world channel
    have hsuited : Respects (Mirrors view) (do
        if ¬ order.SuitedTo setup.device then
          throw .invalidTransfer
        install (order.transfer controller.config) channel setup
        start world channel : Attempt Controller PUnit) := by
      dsimp only
      split
      · exact (respects_throw _).bind fun _ => hinstall
      · exact hinstall
    split
    · exact (respects_throw _).bind fun _ => hsuited
    · exact hsuited
  · exact respects_throw _

end

end Controller

end CyclicDma
