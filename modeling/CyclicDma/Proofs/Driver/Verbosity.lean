import CyclicDma.Driver.Dispatch
import CyclicDma.Proofs.Controller.Verbosity
import CyclicDma.Proofs.Driver.Allocation

/-! # Verbosity of drivers

A driver of a controller that records every message does the same as a driver of one that
records some of them. Callbacks are called and wakers woken at the same places of their
histories.
-/

namespace CyclicDma.Driver

/-- The drivers hold the same references, and the controller of the loud one records all
messages. -/
structure Mirrors (view : View) (quiet loud : Driver) : Prop where
  controller : Controller.Mirrors view quiet.controller loud.controller
  references : quiet.references = loud.references

variable {view : View} {quiet loud : Driver}

namespace Mirrors

theorem update {change : Controller → Controller}
    (hchange : ∀ {quiet loud}, Controller.Mirrors view quiet loud →
      Controller.Mirrors view (change quiet) (change loud))
    (hmirrors : Mirrors view quiet loud) :
    Mirrors view (quiet.update change) (loud.update change) :=
  ⟨hchange hmirrors.controller, hmirrors.references⟩

theorem record {event : Event} (hevent : ∀ verbosity, event.isAdmitted verbosity = true)
    (hmirrors : Mirrors view quiet loud) :
    Mirrors view (quiet.update (·.record event)) (loud.update (·.record event)) :=
  hmirrors.update fun hcontroller => hcontroller.record hevent

theorem onInterrupt (hmirrors : Mirrors view quiet loud) :
    Agree (Mirrors view) quiet.onInterrupt loud.onInterrupt :=
  ⟨hmirrors.controller.onInterrupt.1, hmirrors.controller.onInterrupt.2, hmirrors.references⟩

theorem pollPeriod (hmirrors : Mirrors view quiet loud) (future : PeriodFuture) (waker : Waker) :
    (quiet.controller.pollPeriod future waker).1 = (loud.controller.pollPeriod future waker).1 ∧
      Mirrors view
        { quiet with controller := (quiet.controller.pollPeriod future waker).2 }
        { loud with controller := (loud.controller.pollPeriod future waker).2 } := by
  obtain ⟨hanswer, hpolled⟩ := hmirrors.controller.pollPeriod future waker
  exact ⟨hanswer, hpolled, hmirrors.references⟩

/-- As many registrations are removed at both. -/
theorem removeOwner (hmirrors : Mirrors view quiet loud) (owner : Nat) :
    Agree (Mirrors view) (quiet.removeOwner owner) (loud.removeOwner owner) := by
  have hnotifications : quiet.controller.notifications = loud.controller.notifications :=
    hmirrors.controller.query fun _ _ => rfl
  have hremoved : Controller.Mirrors view
      { quiet.controller with
        notifications := quiet.controller.notifications.map (·.removeOwner owner) }
      { loud.controller with
        notifications := loud.controller.notifications.map (·.removeOwner owner) } :=
    @Controller.Mirrors.map view quiet.controller loud.controller (fun controller =>
      { controller with notifications := controller.notifications.map (·.removeOwner owner) })
        (fun _ _ => rfl) (fun _ => rfl) hmirrors.controller
  unfold Driver.removeOwner
  dsimp only
  rw [hnotifications] at hremoved ⊢
  exact ⟨rfl, hremoved, by rw [hmirrors.references]⟩

theorem clearChannel (hmirrors : Mirrors view quiet loud) (channel : Nat) :
    Mirrors view (quiet.clearChannel channel) (loud.clearChannel channel) := by
  unfold Driver.clearChannel
  dsimp only
  rw [hmirrors.controller.notificationsOf, hmirrors.references]
  exact ⟨(hmirrors.controller.record fun _ => rfl).updateNotifications .., rfl⟩

theorem clearChannels (hmirrors : Mirrors view quiet loud) (channels : List Nat) :
    Mirrors view (channels.foldl Driver.clearChannel quiet)
      (channels.foldl Driver.clearChannel loud) :=
  List.foldl_rel hmirrors fun channel _ _ _ hmirrors => hmirrors.clearChannel channel

/-! ## Deliveries -/

theorem retryAbort (hmirrors : Mirrors view quiet loud) (channel : Nat) :
    Mirrors view (quiet.retryAbort channel) (loud.retryAbort channel) := by
  unfold Driver.retryAbort
  dsimp only
  rw [hmirrors.controller.notificationsOf, hmirrors.controller.read]
  split
  · exact hmirrors.update fun hcontroller => hcontroller.abort channel
  · exact hmirrors

theorem wake (hmirrors : Mirrors view quiet loud) (waker : Option Waker) :
    Mirrors view (quiet.wake waker) (loud.wake waker) := by
  cases waker with
  | none => exact hmirrors
  | some waker => exact hmirrors.record fun _ => rfl

variable {react : React}

theorem call
    (hreact : ∀ reaction {quiet loud}, Mirrors view quiet loud →
      Mirrors view (react reaction quiet) (react reaction loud))
    (channel : Nat) (registration : Registration) (hmirrors : Mirrors view quiet loud) :
    Mirrors view (Driver.call react channel quiet registration)
      (Driver.call react channel loud registration) :=
  List.foldl_rel (hmirrors.record fun _ => rfl) fun reaction _ _ _ hmirrors =>
    hreact reaction hmirrors

/-- A visit makes the same calls, whatever the verbosity. -/
theorem visit
    (hreact : ∀ reaction {quiet loud}, Mirrors view quiet loud →
      Mirrors view (react reaction quiet) (react reaction loud))
    (channel : Nat) (hmirrors : Mirrors view quiet loud) :
    Mirrors view (Driver.visit react quiet channel) (Driver.visit react loud channel) := by
  unfold Driver.visit
  dsimp only
  rw [hmirrors.controller.notificationsOf]
  split
  · exact hmirrors
  · refine wake (List.foldl_rel ?_ fun registration _ _ _ hmirrors =>
      hmirrors.call hreact channel registration) _
    exact (hmirrors.retryAbort channel).update fun hcontroller =>
      (hcontroller.updateNotifications ..).record fun _ => rfl

theorem dispatchWith
    (hreact : ∀ reaction {quiet loud}, Mirrors view quiet loud →
      Mirrors view (react reaction quiet) (react reaction loud))
    (hmirrors : Mirrors view quiet loud) :
    Mirrors view (Driver.dispatchWith react quiet) (Driver.dispatchWith react loud) := by
  unfold Driver.dispatchWith
  rw [hmirrors.controller.managed]
  exact List.foldl_rel hmirrors fun channel _ _ _ hmirrors => hmirrors.visit hreact channel

/-- Callbacks react in the same way, however deep they nest. -/
theorem dispatchNested (hmirrors : Mirrors view quiet loud) (depth : Nat) :
    Mirrors view (Driver.dispatchNested depth quiet) (Driver.dispatchNested depth loud) := by
  induction depth generalizing quiet loud with
  | zero => exact hmirrors.dispatchWith fun _ _ _ hmirrors => hmirrors
  | succ depth ih =>
      refine hmirrors.dispatchWith fun reaction quiet loud hmirrors => ?_
      cases reaction with
      | removeOwner owner =>
          obtain ⟨hcount, hremoved⟩ := hmirrors.removeOwner owner
          dsimp only
          rw [hcount]
          exact hremoved.record fun _ => rfl
      | interrupt =>
          obtain ⟨hhandled, hinterrupted⟩ := hmirrors.onInterrupt
          dsimp only
          rw [hhandled]
          exact hinterrupted.record fun _ => rfl
      | dispatch => exact (ih hmirrors).record fun _ => rfl

end Mirrors

/-! ## Operations that may fail -/

theorem respects_onController {α : Type} {action : Attempt Controller α}
    (haction : Respects (Controller.Mirrors view) action) :
    Respects (Mirrors view) (onController action) := by
  intro quiet loud hmirrors
  obtain ⟨hresult, hafter⟩ := haction _ _ hmirrors.controller
  exact ⟨hresult, hafter, hmirrors.references⟩

theorem respects_register (channel : Nat) (callback : Callback) (context : UInt64)
    (owner : Option Nat) : Respects (Mirrors view) (register channel callback context owner) := by
  refine respects_get_bind (fun quiet loud hmirrors => ?_) fun driver => ?_
  · rw [hmirrors.controller.notificationsOf]
  · split
    · exact respects_throw _
    · refine (respects_modify fun _ _ hmirrors => ?_).bind fun _ => respects_pure _
      exact ⟨hmirrors.controller.updateNotifications .., by rw [hmirrors.references]⟩

theorem respects_unregister (channel : Nat) (id : UInt32) :
    Respects (Mirrors view) (unregister channel id) := by
  refine respects_get_bind (fun quiet loud hmirrors => ?_) fun driver => ?_
  · rw [hmirrors.controller.notificationsOf]
  · split
    · exact respects_throw _
    · refine respects_modify fun _ _ hmirrors => ?_
      exact ⟨hmirrors.controller.updateNotifications .., by rw [hmirrors.references]⟩

theorem respects_setup (change : Option Setup → Option Setup) :
    Respects (Mirrors view) (modify (·.update fun controller =>
      { controller with setup := change controller.setup }) : Attempt Driver PUnit) :=
  respects_modify fun _ _ hmirrors => hmirrors.update fun hcontroller =>
    hcontroller.mapSetup change

theorem respects_allocate (index : Option Nat) : Respects (Mirrors view) (allocate index) := by
  refine respects_get_bind (fun quiet loud hmirrors => ?_) fun driver => ?_
  · rw [hmirrors.controller.setup]
  · split
    · split
      · exact respects_throw _
      · exact (respects_setup fun _ => _).bind fun _ => respects_pure _
    · exact respects_throw _

theorem respects_release (channel : Nat) : Respects (Mirrors view) (release channel) := by
  have hreleased : Respects (Mirrors view) (do
      modify (·.clearChannel channel)
      modify (·.update fun controller =>
        { controller with
          setup := controller.setup.map fun setup =>
            { setup with requests := setup.requests.set channel none } }) :
        Attempt Driver PUnit) :=
    (respects_modify fun _ _ hmirrors => hmirrors.clearChannel channel).bind fun _ =>
      respects_setup (Option.map _)
  refine respects_get_bind (fun quiet loud hmirrors => ?_) fun driver => ?_
  · rw [hmirrors.controller.isRunning]
  dsimp only
  split
  · exact (respects_throw _).bind fun _ => hreleased
  · exact hreleased

theorem respects_deinit : Respects (Mirrors view) deinit := by
  refine respects_get_bind (fun quiet loud hmirrors => ?_) fun driver => ?_
  · dsimp only
    rw [hmirrors.controller.setup]
  dsimp only
  split
  next setup _ =>
    have hclosed : Respects (Mirrors view) (do
        modify (·.update fun controller =>
          controller.write .interruptEnable
            (controller.read .interruptEnable &&& ~~~channelBits setup.usable))
        modify fun driver => (List.range driver.controller.managed).foldl clearChannel driver
        modify (·.update ({ · with setup := none }))
        return setup.region : Attempt Driver Region) := by
      refine (respects_modify fun _ _ hmirrors => ?_).bind fun _ => ?_
      · refine hmirrors.update fun hcontroller => ?_
        rw [hcontroller.read]
        exact hcontroller.write ..
      · refine (respects_modify fun _ _ hmirrors => ?_).bind fun _ => ?_
        · rw [hmirrors.controller.managed]
          exact hmirrors.clearChannels _
        · exact (respects_setup fun _ => none).bind fun _ => respects_pure _
    split
    · exact (respects_throw _).bind fun _ => hclosed
    · exact hclosed
  · exact respects_throw _

/-! ## Initializing -/

/-- The driver before anything was recorded. -/
def bare (driver : Driver) : Driver :=
  { driver with controller := driver.controller.bare }

/-- From the new configuration on, messages are recorded with its verbosity. The events
before are no messages. -/
theorem mirrors_opened (region : Region) (busAddress : UInt32) (config : Config)
    (driver : Driver) :
    Mirrors ⟨config.verbosity, driver.controller.history⟩
      (driver.opened region busAddress config)
      (driver.bare.opened region busAddress (config.withVerbosity (some .trace))) := by
  -- channels are cleared alike with the old configuration and with the new one
  have hcleared : ∀ (config : Config) (channels : List Nat) (driver : Driver),
      channels.foldl clearChannel (driver.update ({ · with config })) =
        (channels.foldl clearChannel driver).update ({ · with config }) :=
    fun config channels driver =>
      List.foldl_hom (update ({ · with config })) fun _ _ => rfl
  have hstart : Mirrors ⟨config.verbosity, driver.controller.history⟩
      (driver.update ({ · with config }))
      (driver.bare.update ({ · with config := config.withVerbosity (some .trace) })) :=
    ⟨⟨rfl, rfl⟩, rfl⟩
  have hchannels := hstart.clearChannels (List.range
    (usableChannels (Device.ofRegisters driver.controller.registers) driver.controller))
  rw [hcleared, hcleared] at hchannels
  exact Mirrors.update (fun hcontroller => hcontroller.log _)
    ⟨hchannels.controller.mapSetup fun _ => _, hchannels.references⟩

/-- An initialization does the same for a bare driver, and records with its own verbosity,
whether it succeeds or not. -/
theorem echoes_init (region : Region) (busAddress : UInt32) (config : Config) (driver : Driver) :
    ((init region busAddress config).perform driver).1 =
        ((init region busAddress (config.withVerbosity (some .trace))).perform driver.bare).1 ∧
      ((init region busAddress config).perform driver).2.references =
        ((init region busAddress (config.withVerbosity (some .trace))).perform
          driver.bare).2.references ∧
      Controller.Echoes config.verbosity driver.controller.history
        ((init region busAddress config).perform driver).2.controller
        ((init region busAddress (config.withVerbosity (some .trace))).perform
          driver.bare).2.controller := by
  by_cases hsupported : config.SupportedBy (Device.ofRegisters driver.controller.registers)
  · have hsupported' : (config.withVerbosity (some .trace)).SupportedBy
        (Device.ofRegisters driver.bare.controller.registers) := hsupported
    rcases Nat.lt_or_ge region.bytes.length (Region.slabBytes * usableChannels
        (Device.ofRegisters driver.controller.registers) driver.controller) with hsmall | hregion
    · rw [perform_init_of_small hsupported hsmall, perform_init_of_small hsupported' hsmall]
      exact ⟨rfl, rfl, rfl, rfl⟩
    · cases hsetup : driver.controller.setup with
      | some setup =>
          have hsetup' : driver.bare.controller.setup = some setup := hsetup
          rw [perform_init_of_setup hsupported hregion hsetup,
            perform_init_of_setup hsupported' hregion hsetup']
          exact ⟨rfl, rfl, rfl, rfl⟩
      | none =>
          have hsetup' : driver.bare.controller.setup = none := hsetup
          rw [perform_init hsupported hregion hsetup, perform_init hsupported' hregion hsetup']
          have hopened := mirrors_opened region busAddress config driver
          exact ⟨rfl, hopened.references, hopened.controller.echoes⟩
  · have hunsupported : ¬ (config.withVerbosity (some .trace)).SupportedBy
        (Device.ofRegisters driver.bare.controller.registers) := hsupported
    rw [perform_init_of_unsupported hsupported, perform_init_of_unsupported hunsupported]
    exact ⟨rfl, rfl, Controller.echoes_logAt ..⟩

end CyclicDma.Driver
