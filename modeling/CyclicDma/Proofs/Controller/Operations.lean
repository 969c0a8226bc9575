import CyclicDma.Proofs.Controller.Step

/-! # What operations of a controller are made of

Stopping, starting and submitting are made of a few parts, such as messages,
commands and waits. A preorder that all parts follow is followed by the operations.
Steps are one: waits leave the setup alone, so what was checked before a wait still
holds when a channel is launched after it.
-/

namespace CyclicDma.Controller

variable {controller : Controller} {thread : ThreadId} {channel : Nat}
variable {relation : Controller → Controller → Prop}

/-- A relation that is followed by everything that stopping a thread is made of. -/
structure Stopping (thread : ThreadId) (relation : Controller → Controller → Prop) : Prop where
  change (register : Register) (value : UInt32) (controller : Controller) :
    relation controller (controller.change register value)
  interrupt (controller : Controller) : relation controller controller.onInterrupt.2
  tick (controller : Controller) :
    relation controller ({ controller with clock := controller.clock + 1 }.record .delay)
  log (message : LogMessage) (controller : Controller) :
    relation controller (controller.log message)
  kill (controller : Controller) : relation controller (controller.issue thread .kill)
  silence (controller : Controller) : relation controller (controller.silence thread)
  markStopped (controller : Controller) : relation controller (controller.markStopped thread)

/-- A relation that is also followed by everything that starting a channel is made
of. -/
structure Starting (channel : Nat) (relation : Controller → Controller → Prop) : Prop
    extends Stopping (.channel channel) relation where
  noteAbort (controller : Controller) : relation controller (controller.noteAbort channel)
  unmaskEvent (controller : Controller) : relation controller (controller.unmaskEvent channel)
  maskEvent (controller : Controller) : relation controller (controller.maskEvent channel)
  /-- The program in the slab of the channel is started. -/
  launch {controller : Controller} {setup : Setup} {transfer : Transfer}
    (hsetup : controller.setup = some setup)
    (htransfer : controller.transfer? channel = some transfer) :
    relation controller
      ((controller.issue (.channel channel)
        (.go channel (setup.slabAddress channel) setup.device.nonsecure)).setRunning true channel)

/-- A relation that is also followed by everything that submitting to a channel is
made of. -/
structure Submitting (channel : Nat) (relation : Controller → Controller → Prop) : Prop
    extends Starting channel relation where
  forget (controller : Controller) : relation controller (controller.setTransfer none channel)
  /-- The program of an order is written into the slab of the channel. -/
  install {controller : Controller} {setup : Setup} {order : Order} {size : Nat}
    {slab : List UInt8} (hsetup : controller.setup = some setup)
    (hsuited : order.SuitedTo setup.device)
    (hwrite : Program.write (order.transfer controller.config) (.ofNat channel)
      (setup.region.slab channel) = .ok (size, slab)) :
    relation controller
      ((controller.storeSlab slab channel).setTransfer
        (some (order.transfer controller.config)) channel)

/-! ## In one world -/

/-- A relation that is followed, in one world, by everything that stopping a thread is
made of. -/
structure StoppingIn (world : World) (thread : ThreadId)
    (relation : Controller → Controller → Prop) : Prop where
  pause (controller : Controller) : relation controller (controller.pause world)
  log (message : LogMessage) (controller : Controller) :
    relation controller (controller.log message)
  kill (controller : Controller) : relation controller (controller.issue thread .kill)
  silence (controller : Controller) : relation controller (controller.silence thread)
  markStopped (controller : Controller) : relation controller (controller.markStopped thread)

/-- A relation that is also followed by everything that starting a channel is made
of. -/
structure StartingIn (world : World) (channel : Nat)
    (relation : Controller → Controller → Prop) : Prop
    extends StoppingIn world (.channel channel) relation where
  noteAbort (controller : Controller) : relation controller (controller.noteAbort channel)
  unmaskEvent (controller : Controller) : relation controller (controller.unmaskEvent channel)
  maskEvent (controller : Controller) : relation controller (controller.maskEvent channel)
  launch {controller : Controller} {setup : Setup} {transfer : Transfer}
    (hsetup : controller.setup = some setup)
    (htransfer : controller.transfer? channel = some transfer) :
    relation controller
      ((controller.issue (.channel channel)
        (.go channel (setup.slabAddress channel) setup.device.nonsecure)).setRunning true channel)

/-- A relation that is also followed by everything that submitting to a channel is
made of. -/
structure SubmittingIn (world : World) (channel : Nat)
    (relation : Controller → Controller → Prop) : Prop
    extends StartingIn world channel relation where
  forget (controller : Controller) : relation controller (controller.setTransfer none channel)
  install {controller : Controller} {setup : Setup} {order : Order} {size : Nat}
    {slab : List UInt8} (hsetup : controller.setup = some setup)
    (hsuited : order.SuitedTo setup.device)
    (hwrite : Program.write (order.transfer controller.config) (.ofNat channel)
      (setup.region.slab channel) = .ok (size, slab)) :
    relation controller
      ((controller.storeSlab slab channel).setTransfer
        (some (order.transfer controller.config)) channel)

/-! ## What launching comes to -/

/-- What becomes of a channel that is to be launched. Nothing is done, or the event of a
channel that does not run is enabled before a wait. Afterwards the channel is started,
or its event is masked again. -/
inductive Triggers (world : World) (channel : Nat) (controller : Controller) :
    Except DmaError Unit × Controller → Prop
  | leave (hbusy : controller.channelState channel ≠ .stopped ∨
        controller.wasStarted channel = true) :
      Triggers world channel controller (.ok (), controller)
  | refuse {error} (hnone : controller.transfer? channel = none) :
      Triggers world channel controller (.error error, controller)
  | launch {setup waited} (hsetup : controller.setup = some setup)
      (hidle : controller.wasStarted channel = false)
      (hsome : (controller.transfer? channel).isSome = true)
      (hwaited : waitFor world (!·.isDebugBusy) waitBound (controller.unmaskEvent channel) =
        (true, waited)) :
      Triggers world channel controller
        (.ok (),
          ((waited.issue (.channel channel)
            (.go channel (setup.slabAddress channel) setup.device.nonsecure)).setRunning true
              channel).log (.started (.channel channel) (setup.slabAddress channel)))
  | drop {setup waited} (hsetup : controller.setup = some setup)
      (hidle : controller.wasStarted channel = false)
      (hsome : (controller.transfer? channel).isSome = true)
      (hwaited : waitFor world (!·.isDebugBusy) waitBound (controller.unmaskEvent channel) =
        (false, waited)) :
      Triggers world channel controller
        (.error .timeout,
          (waited.log (.dropped (.go channel (setup.slabAddress channel) setup.device.nonsecure)
            (.channel channel))).maskEvent channel)

theorem triggers_trigger (world : World) (channel : Nat) (controller : Controller) :
    Triggers world channel controller ((trigger world channel).perform controller) := by
  unfold trigger
  rw [Attempt.perform_bind, Attempt.perform_get]
  dsimp only
  split
  next hbusy =>
    exact .leave (by simpa using hbusy)
  next hidle =>
    obtain ⟨-, hidle⟩ : controller.channelState channel = .stopped ∧
        controller.wasStarted channel = false := by simpa using hidle
    split
    next setup hsetup =>
      split
      next hnone => exact .refuse (Option.isNone_iff_eq_none.mp hnone)
      next hsome =>
        have hsome : (controller.transfer? channel).isSome = true := by
          simpa [Option.isSome_iff_ne_none] using hsome
        change Triggers world channel controller
          ((execute world (.channel channel) (.go channel (setup.slabAddress channel)
            setup.device.nonsecure) >>= _).perform (controller.unmaskEvent channel))
        rw [Attempt.perform_bind, perform_execute]
        cases hwaited : waitFor world (!·.isDebugBusy) waitBound (controller.unmaskEvent channel) with
        | mk idle waited =>
            cases idle with
            | true => exact .launch hsetup hidle hsome hwaited
            | false => exact .drop hsetup hidle hsome hwaited
    next hsetup =>
      refine .refuse ?_
      cases hnone : controller.setup with
      | none =>
          rw [transfer?, request?, hnone]
          rfl
      | some setup => exact (hsetup setup hnone).elim

/-! ## What starting and submitting come to -/

/-- What becomes of a channel that is to be started. It is settled and then launched,
unless it is active already, cannot be started, or cannot be settled. -/
inductive StartsThread (world : World) (channel : Nat) (controller : Controller) :
    Except DmaError Unit × Controller → Prop
  | leave (hactive : (controller.channelState channel).isActive = true) :
      StartsThread world channel controller (.ok (), controller)
  | refuse (error message) :
      StartsThread world channel controller (.error error, controller.log message)
  | stick {error stuck}
      (hsettle : (settle world channel (controller.channelState channel)).perform controller =
        (.error error, stuck)) :
      StartsThread world channel controller (.error error, stuck)
  | trigger {settled outcome}
      (hsettle : (settle world channel (controller.channelState channel)).perform controller =
        (.ok (), settled))
      (htrigger : (Controller.trigger world channel).perform settled = outcome) :
      StartsThread world channel controller outcome

theorem startsThread_startThread (world : World) (channel : Nat) (controller : Controller) :
    StartsThread world channel controller ((startThread world channel).perform controller) := by
  unfold startThread
  rw [Attempt.perform_bind, Attempt.perform_get]
  dsimp only
  split
  next hactive => exact .leave hactive
  next =>
    split
    · exact .refuse ..
    · cases hsettle : (settle world channel (controller.channelState channel)).perform
          controller with
      | mk result settled =>
          cases result with
          | error error =>
              rw [Attempt.perform_bind_of_error hsettle]
              exact .stick hsettle
          | ok value =>
              rw [Attempt.perform_bind_of_ok hsettle]
              exact .trigger hsettle rfl

theorem perform_start (world : World) (channel : Nat) (controller : Controller) :
    (start world channel).perform controller =
      (startThread world channel).perform (controller.noteAbort channel) :=
  rfl

/-- A program is written into the slab of a channel, or it does not fit. Either way the
transfer that was submitted before is forgotten. -/
inductive Installs (transfer : Transfer) (channel : Nat) (setup : Setup)
    (controller : Controller) : Except DmaError Unit × Controller → Prop
  | fail {error}
      (hwrite : Program.write transfer (.ofNat channel) (setup.region.slab channel) =
        .error error) :
      Installs transfer channel setup controller
        (.error error, controller.setTransfer none channel)
  | write {size slab}
      (hwrite : Program.write transfer (.ofNat channel) (setup.region.slab channel) =
        .ok (size, slab)) :
      Installs transfer channel setup controller
        (.ok (),
          (((controller.setTransfer none channel).storeSlab slab channel).setTransfer
            (some transfer) channel).log
              (.programmed channel size transfer.periods transfer.periodBytes))

theorem installs_install (transfer : Transfer) (channel : Nat) (setup : Setup)
    (controller : Controller) :
    Installs transfer channel setup controller
      ((install transfer channel setup).perform controller) := by
  unfold install
  rw [Attempt.perform_bind, Attempt.perform_modify]
  dsimp only
  split
  next error hwrite => exact .fail hwrite
  next size slab hwrite => exact .write hwrite

/-- What becomes of an order for a channel. Its program is written and started, unless
the channel does not take it or the program does not fit. -/
inductive Submits (world : World) (channel : Nat) (order : Order) (controller : Controller) :
    Except DmaError Unit × Controller → Prop
  | refuse (error) : Submits world channel order controller (.error error, controller)
  | fail {setup error installed} (hsetup : controller.setup = some setup)
      (hidle : controller.wasStarted channel = false)
      (hinstall : (install (order.transfer controller.config) channel setup).perform controller =
        (.error error, installed)) :
      Submits world channel order controller (.error error, installed)
  | start {setup installed outcome} (hsetup : controller.setup = some setup)
      (hidle : controller.wasStarted channel = false)
      (hstopped : controller.channelState channel = .stopped)
      (hsuited : order.SuitedTo setup.device)
      (hinstall : (install (order.transfer controller.config) channel setup).perform controller =
        (.ok (), installed))
      (hstart : (Controller.start world channel).perform installed = outcome) :
      Submits world channel order controller outcome

/-- An abort is taken note of before. -/
theorem submits_submit (world : World) (channel : Nat) (order : Order) (controller : Controller) :
    Submits world channel order (controller.noteAbort channel)
      ((submit world channel order).perform controller) := by
  unfold submit
  rw [Attempt.perform_bind, Attempt.perform_modify]
  dsimp only
  rw [Attempt.perform_bind, Attempt.perform_get]
  dsimp only
  generalize controller.noteAbort channel = noted
  split
  next setup hsetup =>
    split
    · exact .refuse _
    next hfree =>
      obtain ⟨hidle, hstopped⟩ : noted.wasStarted channel = false ∧
          noted.channelState channel = .stopped := by simpa using hfree
      split
      next => exact .refuse _
      next hsuited =>
        cases hinstall : (install (order.transfer noted.config) channel setup).perform noted with
        | mk result installed =>
            cases result with
            | error error =>
                rw [Attempt.perform_bind_of_error hinstall]
                exact .fail hsetup hidle hinstall
            | ok value =>
                rw [Attempt.perform_bind_of_ok hinstall]
                exact .start hsetup hidle hstopped (Decidable.not_not.mp hsuited) hinstall rfl
  next => exact .refuse _

theorem transfer?_eq_of_setup {before after : Controller} (hsetup : after.setup = before.setup)
    (channel : Nat) : after.transfer? channel = before.transfer? channel := by
  rw [transfer?, transfer?, request?, request?, hsetup]

section

variable [Std.Refl relation] [IsTrans Controller relation]

/-! ## From all worlds to one -/

section

variable (world : World)

omit world in
theorem Stopping.disturbed (hparts : Stopping thread relation) (disturbances : List Disturbance)
    (controller : Controller) : relation controller (disturbances.foldl disturb controller) := by
  induction disturbances generalizing controller with
  | nil => exact Std.Refl.refl controller
  | cons disturbance rest ih =>
      refine IsTrans.trans _ _ _ ?_ (ih _)
      cases disturbance with
      | change register value => exact hparts.change register value controller
      | interrupt => exact hparts.interrupt controller

theorem Stopping.pause (hparts : Stopping thread relation) (controller : Controller) :
    relation controller (controller.pause world) :=
  IsTrans.trans _ _ _ (hparts.tick controller) (hparts.disturbed ..)

theorem Stopping.inWorld (hparts : Stopping thread relation) :
    StoppingIn world thread relation where
  pause := hparts.pause world
  log := hparts.log
  kill := hparts.kill
  silence := hparts.silence
  markStopped := hparts.markStopped

theorem Starting.inWorld (hparts : Starting channel relation) :
    StartingIn world channel relation where
  toStoppingIn := hparts.toStopping.inWorld world
  noteAbort := hparts.noteAbort
  unmaskEvent := hparts.unmaskEvent
  maskEvent := hparts.maskEvent
  launch := hparts.launch

theorem Submitting.inWorld (hparts : Submitting channel relation) :
    SubmittingIn world channel relation where
  toStartingIn := hparts.toStarting.inWorld world
  forget := hparts.forget
  install := hparts.install

end

variable {world : World}

namespace StoppingIn

variable (hparts : StoppingIn world thread relation)

include hparts

/-! ## Waits -/

theorem waitFor (condition : Controller → Bool) (microseconds : Nat) (controller : Controller) :
    relation controller (Controller.waitFor world condition microseconds controller).2 := by
  induction microseconds generalizing controller with
  | zero => exact Std.Refl.refl controller
  | succ microseconds ih =>
      unfold Controller.waitFor
      split
      · exact Std.Refl.refl controller
      · exact IsTrans.trans _ _ _ (hparts.pause controller) (ih _)

theorem wait (condition : Controller → Bool) :
    Follows relation (Controller.wait world condition) :=
  hparts.waitFor condition waitBound

theorem awaitState (channel : Nat) (accept : ChannelState → Bool) :
    Follows relation (Controller.awaitState world channel accept) := by
  refine (hparts.wait _).bind fun reached => follows_get_bind fun controller => ?_
  split
  · exact follows_pure _ controller
  · exact (follows_modify (hparts.log _)).bind (fun _ => follows_throw _) controller

theorem awaitStopped (channel : Nat) :
    Follows relation (discard (Controller.awaitState world channel (· = .stopped))) :=
  (hparts.awaitState channel _).bind fun _ => follows_pure _

/-! ## Stopping -/

/-- A kill is handed over after a wait, or it is dropped. -/
theorem executeKill : Follows relation (Controller.execute world thread .kill) := by
  intro controller
  have hwaits := hparts.waitFor (!·.isDebugBusy) waitBound controller
  change relation controller ((Controller.execute world thread .kill).perform controller).2
  rw [perform_execute]
  cases hwaited : Controller.waitFor world (!·.isDebugBusy) waitBound controller with
  | mk idle after =>
      rw [hwaited] at hwaits
      cases idle with
      | true => exact IsTrans.trans _ _ _ hwaits (hparts.kill after)
      | false => exact IsTrans.trans _ _ _ hwaits (hparts.log _ after)

theorem decidingState : Follows relation (Controller.decidingState world thread) := by
  refine follows_get_bind fun controller => ?_
  split
  · exact (hparts.awaitState _ _).bind (fun _ => follows_pure _) controller
  · exact follows_pure _ controller

theorem stopThread : Follows relation (Controller.stopThread world thread) := by
  refine hparts.decidingState.bind fun state => ?_
  have hmark : Follows relation (modify (·.markStopped thread) : Attempt Controller PUnit) :=
    follows_modify hparts.markStopped
  dsimp only
  split
  · refine hparts.executeKill.bind fun idle => ?_
    split
    · refine (follows_modify hparts.silence).bind fun _ => ?_
      exact (follows_modify (hparts.log _)).bind fun _ => hmark
    · exact follows_throw_bind _ _
  · exact hmark

end StoppingIn

/-- A channel is brought to a stop by waits and by a kill. -/
theorem StoppingIn.settle (hparts : StoppingIn world (.channel channel) relation)
    (entry : ChannelState) : Follows relation (Controller.settle world channel entry) := by
  -- each wait is looked at once, however the ones before it ended
  have hstopped : Follows relation
      (if entry ≠ .stopped then discard (Controller.awaitState world channel (· = .stopped))
      else pure ()) := by
    split
    · exact hparts.awaitStopped channel
    · exact follows_pure _
  unfold Controller.settle
  dsimp only
  generalize (if entry ≠ .stopped then
    discard (Controller.awaitState world channel (· = .stopped)) else pure ()) = waiting
    at hstopped ⊢
  have hkilled : Follows relation
      (if entry.isFault = true then do
        Controller.stopThread world (.channel channel)
        waiting
      else waiting) := by
    split
    · exact hparts.stopThread.bind fun _ => hstopped
    · exact hstopped
  generalize (if entry.isFault = true then do
      Controller.stopThread world (.channel channel)
      waiting
    else waiting) = killing at hkilled ⊢
  split
  · refine (hparts.awaitState channel _).bind fun reached => ?_
    split
    · exact (hparts.awaitStopped channel).bind fun _ => hkilled
    · exact hkilled
  · exact hkilled

namespace StartingIn

variable (hparts : StartingIn world channel relation)

include hparts

theorem stop : Follows relation (Controller.stop world channel) :=
  (follows_modify hparts.noteAbort).bind fun _ => hparts.stopThread

/-! ## Starting -/

theorem trigger : Follows relation (Controller.trigger world channel) := by
  intro controller
  have hwaits := hparts.waitFor (!·.isDebugBusy) waitBound (controller.unmaskEvent channel)
  have hkept := (waits_waitFor world (!·.isDebugBusy) waitBound (controller.unmaskEvent channel)).setup
  have htriggers := triggers_trigger world channel controller
  change relation controller ((Controller.trigger world channel).perform controller).2
  generalize (Controller.trigger world channel).perform controller = outcome at htriggers ⊢
  cases htriggers with
  | leave | refuse => exact Std.Refl.refl controller
  | launch hsetup hidle hsome hwaited =>
      rw [hwaited] at hwaits hkept
      -- the transfer is still recorded after the wait
      obtain ⟨transfer, htransfer⟩ := Option.isSome_iff_exists.mp hsome
      have hlaunch := hparts.launch (hkept.trans hsetup)
        ((transfer?_eq_of_setup hkept channel).trans htransfer)
      refine IsTrans.trans _ _ _ (hparts.unmaskEvent controller) ?_
      refine IsTrans.trans _ _ _ hwaits (IsTrans.trans _ _ _ hlaunch (hparts.log _ _))
  | drop hsetup hidle hsome hwaited =>
      rw [hwaited] at hwaits
      refine IsTrans.trans _ _ _ (hparts.unmaskEvent controller) ?_
      refine IsTrans.trans _ _ _ hwaits (IsTrans.trans _ _ _ (hparts.log _ _) (hparts.maskEvent _))

theorem startThread : Follows relation (Controller.startThread world channel) := by
  refine follows_get_bind fun controller => ?_
  dsimp only
  split
  · exact follows_pure _ controller
  · split
    · exact (follows_modify (hparts.log _)).bind (fun _ => follows_throw _) controller
    · exact (hparts.settle _).bind (fun _ => hparts.trigger) controller

theorem start : Follows relation (Controller.start world channel) :=
  (follows_modify hparts.noteAbort).bind fun _ => hparts.startThread

end StartingIn

/-! ## Submitting -/

namespace SubmittingIn

variable (hparts : SubmittingIn world channel relation)

include hparts

omit [Std.Refl relation] in
/-- A transfer that suits the device is recorded if its program fits. -/
theorem perform_install {setup : Setup} {order : Order}
    (hsetup : controller.setup = some setup) (hsuited : order.SuitedTo setup.device) :
    relation controller
      ((Controller.install (order.transfer controller.config) channel setup).perform
        controller).2 := by
  have hforget := hparts.forget controller
  have hinstalls := installs_install (order.transfer controller.config) channel setup controller
  generalize (Controller.install (order.transfer controller.config) channel setup).perform
    controller = outcome at hinstalls ⊢
  cases hinstalls with
  | fail => exact hforget
  | write hwrite =>
      have hforgotten : (controller.setTransfer none channel).setup =
          some { setup with
            requests := setup.requests.modify channel (·.map ({ · with transfer := none })) } := by
        rw [setTransfer, updateRequest, hsetup]
        rfl
      have hinstalled := hparts.install hforgotten hsuited hwrite
      exact IsTrans.trans _ _ _ (IsTrans.trans _ _ _ hforget hinstalled) (hparts.log _ _)

theorem submit (order : Order) : Follows relation (Controller.submit world channel order) := by
  refine (follows_modify hparts.noteAbort).bind fun _ => follows_get_bind fun controller => ?_
  split
  next setup hsetup =>
    dsimp only
    split
    · exact follows_throw_bind _ _ controller
    · split
      · exact follows_throw_bind _ _ controller
      next hsuited =>
        exact related_bind (hparts.perform_install hsetup (Decidable.not_not.mp hsuited))
          fun _ => hparts.start
  next => exact follows_throw _ controller

end SubmittingIn

/-! ## In all worlds -/

section

variable (world : World)

theorem Stopping.waitFor (hparts : Stopping thread relation) (condition : Controller → Bool)
    (microseconds : Nat) (controller : Controller) :
    relation controller (Controller.waitFor world condition microseconds controller).2 :=
  (hparts.inWorld world).waitFor condition microseconds controller

theorem Stopping.stopThread (hparts : Stopping thread relation) :
    Follows relation (Controller.stopThread world thread) :=
  (hparts.inWorld world).stopThread

theorem Stopping.settle (hparts : Stopping (.channel channel) relation) (entry : ChannelState) :
    Follows relation (Controller.settle world channel entry) :=
  (hparts.inWorld world).settle entry

theorem Starting.stop (hparts : Starting channel relation) :
    Follows relation (Controller.stop world channel) :=
  (hparts.inWorld world).stop

theorem Starting.start (hparts : Starting channel relation) :
    Follows relation (Controller.start world channel) :=
  (hparts.inWorld world).start

theorem Submitting.submit (hparts : Submitting channel relation) (order : Order) :
    Follows relation (Controller.submit world channel order) :=
  (hparts.inWorld world).submit order

end

end

/-! ## Operations are sequences of steps -/

theorem stopping_threadSteps (thread : ThreadId) : Stopping thread ThreadSteps where
  change register value controller := .aside (aside_change register value controller)
  interrupt controller := .single (.interrupt controller)
  tick controller := .aside (aside_tick controller)
  log := threadSteps_log
  kill controller := .aside (aside_issue_kill thread controller)
  silence controller := .aside (aside_silence thread controller)
  markStopped := threadSteps_markStopped thread

theorem starting_threadSteps (channel : Nat) : Starting channel ThreadSteps where
  toStopping := stopping_threadSteps (.channel channel)
  noteAbort := threadSteps_noteAbort channel
  unmaskEvent controller := .aside (aside_unmaskEvent channel controller)
  maskEvent controller := .aside (aside_maskEvent channel controller)
  launch hsetup htransfer := .tail (.single (.launch hsetup htransfer)) (.setRunning true channel _)

theorem Stopping.mono {wider : Controller → Controller → Prop} (hparts : Stopping thread relation)
    (hwider : ∀ before after, relation before after → wider before after) :
    Stopping thread wider where
  change register value controller := hwider _ _ (hparts.change register value controller)
  interrupt controller := hwider _ _ (hparts.interrupt controller)
  tick controller := hwider _ _ (hparts.tick controller)
  log message controller := hwider _ _ (hparts.log message controller)
  kill controller := hwider _ _ (hparts.kill controller)
  silence controller := hwider _ _ (hparts.silence controller)
  markStopped controller := hwider _ _ (hparts.markStopped controller)

theorem Starting.mono {wider : Controller → Controller → Prop} (hparts : Starting channel relation)
    (hwider : ∀ before after, relation before after → wider before after) :
    Starting channel wider where
  toStopping := hparts.toStopping.mono hwider
  noteAbort controller := hwider _ _ (hparts.noteAbort controller)
  unmaskEvent controller := hwider _ _ (hparts.unmaskEvent controller)
  maskEvent controller := hwider _ _ (hparts.maskEvent controller)
  launch hsetup htransfer := hwider _ _ (hparts.launch hsetup htransfer)

theorem submitting_steps (channel : Nat) : Submitting channel Steps where
  toStarting := (starting_threadSteps channel).mono fun _ _ => ThreadSteps.steps
  forget controller := .single (.forget channel controller)
  install hsetup hsuited hwrite := .single (.install hsetup hsuited hwrite)

theorem follows_stopThread (world : World) (thread : ThreadId) :
    Follows ThreadSteps (stopThread world thread) :=
  (stopping_threadSteps thread).stopThread world

theorem follows_noteAbort (channel : Nat) :
    Follows ThreadSteps (modify (·.noteAbort channel) : Attempt Controller PUnit) :=
  follows_modify (threadSteps_noteAbort channel)

theorem follows_stop (world : World) (channel : Nat) : Follows ThreadSteps (stop world channel) :=
  (starting_threadSteps channel).stop world

theorem follows_settle (world : World) (channel : Nat) (entry : ChannelState) :
    Follows ThreadSteps (settle world channel entry) :=
  (starting_threadSteps channel).settle world entry

theorem follows_start (world : World) (channel : Nat) : Follows ThreadSteps (start world channel) :=
  (starting_threadSteps channel).start world

theorem follows_submit (world : World) (channel : Nat) (order : Order) :
    Follows Steps (submit world channel order) :=
  (submitting_steps channel).submit world order

end CyclicDma.Controller
