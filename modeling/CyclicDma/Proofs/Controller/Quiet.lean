import CyclicDma.Proofs.Controller.Operations

/-! # What goes on quietly

Most of what a driver does to its controller concerns registers, messages and the
setup. Nobody is called or woken, and the notification states stay as they are. An
operation on a thread is made of such parts, apart from interrupts that are handled
meanwhile and from aborts that are taken note of.
-/

namespace CyclicDma

/-- Someone is called or woken. -/
def Event.IsDelivery : Event → Prop
  | call .. | wake _ => True
  | _ => False

instance (event : Event) : Decidable event.IsDelivery :=
  match event with
  | .call .. | .wake _ => .isTrue trivial
  | .write .. | .issue .. | .acknowledge _ | .change .. | .delay | .log _ | .take .. | .discard ..
  | .interrupted _ | .ownerRemoved _ | .dispatched => .isFalse id

namespace Controller

variable {before middle after controller : Controller} {channel : Nat}

/-- Who was called or woken, newest first. -/
def deliveries (controller : Controller) : List Event :=
  controller.history.filter (·.IsDelivery)

/-- Nobody is called or woken, and the notification states are as before. -/
structure Quiet (before after : Controller) : Prop where
  notifications : after.notifications = before.notifications
  deliveries : after.deliveries = before.deliveries

theorem Quiet.refl (controller : Controller) : Quiet controller controller :=
  ⟨rfl, rfl⟩

theorem Quiet.trans (hfirst : Quiet before middle) (hsecond : Quiet middle after) :
    Quiet before after where
  notifications := hsecond.notifications.trans hfirst.notifications
  deliveries := hsecond.deliveries.trans hfirst.deliveries

theorem Quiet.notificationsOf (hquiet : Quiet before after) (channel : Nat) :
    after.notificationsOf channel = before.notificationsOf channel := by
  rw [Controller.notificationsOf, Controller.notificationsOf, hquiet.notifications]

theorem Quiet.managed (hquiet : Quiet before after) : after.managed = before.managed :=
  congrArg List.length hquiet.notifications

/-! ## Registers and messages -/

/-- One more event is written down, and nobody is called or woken by it. -/
theorem Quiet.of_cons {event : Event} (hevent : ¬ event.IsDelivery)
    (hnotifications : after.notifications = before.notifications)
    (hhistory : after.history = event :: before.history) : Quiet before after := by
  refine ⟨hnotifications, ?_⟩
  rw [Controller.deliveries, hhistory]
  exact List.filter_cons_of_neg (by simpa using hevent)

theorem quiet_record {event : Event} (hevent : ¬ event.IsDelivery) (controller : Controller) :
    Quiet controller (controller.record event) :=
  .of_cons hevent rfl rfl

theorem quiet_logAt (verbosity : Verbosity) (message : LogMessage) (controller : Controller) :
    Quiet controller (controller.logAt verbosity message) := by
  unfold logAt
  split
  · exact .of_cons (show ¬ (Event.log message).IsDelivery from id) rfl rfl
  · exact .refl controller

theorem quiet_log (message : LogMessage) (controller : Controller) :
    Quiet controller (controller.log message) :=
  quiet_logAt _ message controller

theorem quiet_write (register : Register) (value : UInt32) (controller : Controller) :
    Quiet controller (controller.write register value) :=
  .of_cons (show ¬ (Event.write register value).IsDelivery from id) rfl rfl

theorem quiet_change (register : Register) (value : UInt32) (controller : Controller) :
    Quiet controller (controller.change register value) :=
  .of_cons (show ¬ (Event.change register value).IsDelivery from id) rfl rfl

theorem quiet_changeAll (changes : List (Register × UInt32)) (controller : Controller) :
    Quiet controller (controller.changeAll changes) := by
  unfold changeAll
  induction changes generalizing controller with
  | nil => exact .refl controller
  | cons change changes ih => exact (quiet_change ..).trans (ih _)

theorem quiet_tick (controller : Controller) :
    Quiet controller ({ controller with clock := controller.clock + 1 }.record .delay) :=
  .of_cons (show ¬ Event.delay.IsDelivery from id) rfl rfl

theorem quiet_issue (thread : ThreadId) (command : Command) (controller : Controller) :
    Quiet controller (controller.issue thread command) := by
  have hissued : ∀ registers, Quiet controller
      ({ controller with registers }.record (.issue thread command)) := fun registers =>
    .of_cons (show ¬ (Event.issue thread command).IsDelivery from id) rfl rfl
  exact (hissued _).trans (quiet_log ..)

theorem quiet_maskEvent (channel : Nat) (controller : Controller) :
    Quiet controller (controller.maskEvent channel) :=
  quiet_write ..

theorem quiet_silence (thread : ThreadId) (controller : Controller) :
    Quiet controller (controller.silence thread) := by
  cases thread with
  | manager => exact .refl controller
  | channel channel =>
      unfold silence
      dsimp only
      split
      · exact (quiet_write ..).trans (quiet_maskEvent ..)
      · exact quiet_maskEvent ..

/-- The setup is no matter either. -/
theorem quiet_setup (setup : Option Setup) (controller : Controller) :
    Quiet controller { controller with setup } :=
  ⟨rfl, rfl⟩

theorem quiet_markStopped (thread : ThreadId) (controller : Controller) :
    Quiet controller (controller.markStopped thread) := by
  cases thread with
  | manager => exact .refl controller
  | channel channel => exact quiet_setup ..

/-! ## Interrupts -/

/-- A channel is killed quietly, apart from the mark that it gets. -/
theorem deliveries_abort (channel : Nat) (controller : Controller) :
    (controller.abort channel).deliveries = controller.deliveries := by
  unfold abort
  split
  · rfl
  · have hkilled := ((quiet_issue (.channel channel) .kill controller).trans
      (quiet_silence (.channel channel) _)).trans (quiet_log (.aborted (.channel channel)) _)
    exact hkilled.deliveries

theorem deliveries_onFault (channel : Nat) (controller : Controller) :
    (controller.onFault channel).deliveries = controller.deliveries := by
  have hnoted : ∀ message, ((controller.updateNotifications channel
      ({ · with faulted := true })).log message).deliveries = controller.deliveries :=
    fun message => (quiet_log message _).deliveries
  unfold onFault
  dsimp only
  split
  · exact hnoted _
  · split
    · exact (deliveries_abort ..).trans (hnoted _)
    · exact (quiet_log ..).deliveries.trans ((deliveries_abort ..).trans (hnoted _))

theorem deliveries_serveChannel (raised faults : UInt32) (controller : Controller)
    (channel : Nat) :
    (controller.serveChannel raised faults channel).deliveries = controller.deliveries := by
  have hcounted : (if hasChannel raised channel then
      controller.updateNotifications channel Notifications.addPending
    else controller).deliveries = controller.deliveries := by
    split <;> rfl
  unfold serveChannel
  dsimp only
  split
  · exact (deliveries_onFault ..).trans hcounted
  · exact hcounted

/-- Interrupts are handled without anybody being called or woken. -/
theorem deliveries_onInterrupt (controller : Controller) :
    controller.onInterrupt.2.deliveries = controller.deliveries := by
  have hserved : ∀ raised faults, ∀ channels : List Nat, ∀ served : Controller,
      (channels.foldl (serveChannel raised faults) served).deliveries = served.deliveries := by
    intro raised faults channels
    induction channels with
    | nil => exact fun served => rfl
    | cons channel channels ih => exact fun served => (ih _).trans (deliveries_serveChannel ..)
  have hacknowledged : ∀ raised, (if raised = 0 then controller
      else controller.acknowledge raised).deliveries = controller.deliveries := by
    intro raised
    split
    · rfl
    · exact List.filter_cons_of_neg
        (by simpa using show ¬ (Event.acknowledge raised).IsDelivery from id)
  unfold onInterrupt
  dsimp only
  rw [hserved]
  generalize controller.read .interruptEnable &&& controller.read .eventStatus = raised
  specialize hacknowledged raised
  generalize (if raised = 0 then controller else controller.acknowledge raised) = acknowledged
    at hacknowledged ⊢
  split
  · exact (quiet_log ..).deliveries.trans hacknowledged
  · exact hacknowledged

/-! ## Parts of operations -/

/-- What an operation on a thread is made of, apart from quiet parts: interrupts are
handled, and the abort of the channel is taken note of. -/
structure Stirs (noted : Nat → Prop) (relation : Controller → Controller → Prop) : Prop where
  quiet {before after : Controller} (hquiet : Quiet before after) : relation before after
  interrupt (controller : Controller) : relation controller controller.onInterrupt.2
  note {channel : Nat} (hnoted : noted channel) (controller : Controller) :
    relation controller (controller.updateNotifications channel ({ · with aborted := false }))

variable {noted : Nat → Prop} {relation : Controller → Controller → Prop}

theorem Stirs.stopping (hstirs : Stirs noted relation) (thread : ThreadId) :
    Stopping thread relation where
  change register value controller := hstirs.quiet (quiet_change register value controller)
  interrupt := hstirs.interrupt
  tick controller := hstirs.quiet (quiet_tick controller)
  log message controller := hstirs.quiet (quiet_log message controller)
  kill controller := hstirs.quiet (quiet_issue thread .kill controller)
  silence controller := hstirs.quiet (quiet_silence thread controller)
  markStopped controller := hstirs.quiet (quiet_markStopped thread controller)

theorem Stirs.submitting [Std.Refl relation] [IsTrans Controller relation]
    (hstirs : Stirs noted relation) (hnoted : noted channel) : Submitting channel relation where
  toStopping := hstirs.stopping (.channel channel)
  noteAbort controller := by
    unfold noteAbort
    split
    · exact IsTrans.trans _ _ _ (hstirs.note hnoted controller) (hstirs.quiet (quiet_setup ..))
    · exact Std.Refl.refl controller
  unmaskEvent controller := hstirs.quiet (quiet_write ..)
  maskEvent controller := hstirs.quiet (quiet_maskEvent channel controller)
  launch _ _ := hstirs.quiet ((quiet_issue ..).trans (quiet_setup ..))
  forget controller := hstirs.quiet (quiet_setup ..)
  install _ _ _ := hstirs.quiet ((quiet_setup ..).trans (quiet_setup ..))

end Controller

end CyclicDma
