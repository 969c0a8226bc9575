import CyclicDma.Proofs.Controller.Limits
import CyclicDma.Proofs.Driver.Demands

/-! # The time that drivers take

A driver only takes time to submit, to start and to stop. Everything else that it is
asked for is done at once: interrupts are handled and periods delivered without a pause,
whatever callbacks react with. So there is a limit to how long a driver blocks, for every
course of the world.
-/

namespace CyclicDma.Driver

variable {driver before middle after : Driver}

/-! ## At once -/

/-- No time passes for the controller of a driver. -/
def AtOnce (before after : Driver) : Prop :=
  Controller.Lasts 0 before.controller after.controller

theorem AtOnce.refl (driver : Driver) : driver.AtOnce driver :=
  Controller.Lasts.refl driver.controller

theorem AtOnce.trans (hfirst : before.AtOnce middle) (hsecond : middle.AtOnce after) :
    before.AtOnce after :=
  Controller.Lasts.trans hfirst hsecond

theorem atOnce_record {event : Event} (hreport : event.IsReport) (driver : Driver) :
    driver.AtOnce (driver.update (·.record event)) := by
  refine .of_event event ?_ rfl rfl
  rintro rfl
  exact hreport

/-- Deliveries are made of what is done at once. -/
theorem delivering_atOnce : Delivering AtOnce where
  refl := .refl
  trans := .trans
  record _ hreport driver := atOnce_record hreport driver
  abort {channel driver} _ := Controller.lasts_abort channel driver.controller
  take channel driver :=
    .of_event (.take channel (driver.controller.notificationsOf channel).pending) nofun rfl rfl
  removeOwner _ _ := .of_eq rfl rfl
  interrupt driver := Controller.lasts_onInterrupt driver.controller

theorem atOnce_clearChannel (driver : Driver) (channel : Nat) :
    driver.AtOnce (driver.clearChannel channel) :=
  .of_event (.discard channel (driver.controller.notificationsOf channel).pending) nofun rfl rfl

theorem atOnce_clearChannels (channels : List Nat) (driver : Driver) :
    driver.AtOnce (channels.foldl clearChannel driver) :=
  delivering_atOnce.foldl atOnce_clearChannel channels driver

theorem atOnce_register (channel : Nat) (callback : Callback) (context : UInt64)
    (owner : Option Nat) (driver : Driver) :
    driver.AtOnce ((register channel callback context owner).perform driver).2 := by
  cases hregister :
      (driver.controller.notificationsOf channel).register callback context owner with
  | error error =>
      rw [perform_register_of_error hregister]
      exact .refl driver
  | ok registered =>
      rw [perform_register_of_ok hregister]
      exact .of_eq rfl rfl

theorem atOnce_unregister (channel : Nat) (id : UInt32) (driver : Driver) :
    driver.AtOnce ((unregister channel id).perform driver).2 := by
  cases hunregister : (driver.controller.notificationsOf channel).unregister id with
  | error error =>
      rw [perform_unregister_of_error hunregister]
      exact .refl driver
  | ok removed =>
      rw [perform_unregister_of_ok hunregister]
      exact .of_eq rfl rfl

theorem Logs.atOnce (hlogs : Logs before after) : before.AtOnce after := by
  rcases hlogs with rfl | ⟨verbosity, message, rfl⟩
  · exact .refl after
  · exact Controller.lasts_logAt verbosity message before.controller

theorem atOnce_init (region : Region) (busAddress : UInt32) (config : Config) (driver : Driver) :
    driver.AtOnce ((init region busAddress config).perform driver).2 := by
  rcases init_cases region busAddress config driver with
    ⟨error, logged, hfailed, hlogs⟩ | ⟨-, -, -, hopened⟩
  · rw [hfailed]
    exact hlogs.atOnce
  · have hcleared := atOnce_clearChannels (List.range (usableChannels
      (Device.ofRegisters driver.controller.registers) driver.controller)) driver
    rw [hopened]
    refine hcleared.trans (Controller.Lasts.trans ?_ (Controller.lasts_log ..))
    exact .of_eq rfl rfl

theorem atOnce_allocate (index : Option Nat) (driver : Driver) :
    driver.AtOnce ((allocate index).perform driver).2 := by
  cases hsetup : driver.controller.setup with
  | none =>
      rw [perform_allocate_of_none hsetup]
      exact .refl driver
  | some setup =>
      rw [perform_allocate hsetup]
      cases chooseChannel index setup with
      | error error => exact .refl driver
      | ok channel => exact .of_eq rfl rfl

theorem atOnce_release (channel : Nat) (driver : Driver) :
    driver.AtOnce ((release channel).perform driver).2 := by
  rw [perform_release]
  split
  · exact .refl driver
  · exact (atOnce_clearChannel driver channel).trans (.of_eq rfl rfl)

theorem atOnce_deinit (driver : Driver) : driver.AtOnce (deinit.perform driver).2 := by
  cases hsetup : driver.controller.setup with
  | none =>
      rw [perform_deinit_of_none hsetup]
      exact .refl driver
  | some setup =>
      rw [perform_deinit hsetup]
      split
      · exact .refl driver
      · have hmasked : driver.AtOnce (driver.update fun controller =>
            controller.write .interruptEnable
              (controller.read .interruptEnable &&& ~~~channelBits setup.usable)) :=
          Controller.lasts_write ..
        exact (hmasked.trans (atOnce_clearChannels ..)).trans (.of_eq rfl rfl)

/-! ## Limits -/

/-- The most microseconds that a demand takes. -/
def Demand.limit : Demand → Nat
  | start .. => 4 * Controller.waitBound
  | stop .. => 2 * Controller.waitBound
  | submit .. | stopManager _ => Controller.waitBound
  | _ => 0

theorem Demand.lastsAtMost (demand : Demand) (driver : Driver) :
    Controller.LastsAtMost demand.limit driver.controller
      (demand.perform driver).controller := by
  cases demand with
  | start world channel =>
      exact (Controller.lastsAtMost_start world channel driver.controller).mono
        (Nat.mul_le_mul_right Controller.waitBound (ChannelState.startWaits_le _))
  | stop world channel =>
      exact (Controller.lastsAtMost_stop world channel driver.controller).mono
        (Nat.mul_le_mul_right Controller.waitBound (ThreadState.stopWaits_le _))
  | submit world channel order =>
      exact Controller.lastsAtMost_submit world channel order driver.controller
  | stopManager world => exact Controller.lastsAtMost_stopManager world driver.controller
  -- whatever else is asked for is done at once
  | change changes => exact (Controller.lasts_changeAll changes driver.controller).within _
  | interrupt => exact (Controller.lasts_onInterrupt driver.controller).within _
  | interrupted handled =>
      have hreport : (Event.interrupted handled).IsReport := trivial
      exact (atOnce_record hreport driver).within _
  | deliver depth => exact (delivering_atOnce.dispatchNested depth driver).within _
  | removeOwner owner => exact (delivering_atOnce.removeOwner owner driver).within _
  | poll future waker =>
      exact (Controller.lasts_pollPeriod future waker driver.controller).within _
  | register channel callback context owner =>
      exact (atOnce_register channel callback context owner driver).within _
  | unregister channel id => exact (atOnce_unregister channel id driver).within _
  | init region busAddress config => exact (atOnce_init region busAddress config driver).within _
  | allocate index => exact (atOnce_allocate index driver).within _
  | release channel => exact (atOnce_release channel driver).within _
  | deinit => exact (atOnce_deinit driver).within _

/-- Waits end exactly, and operations of a driver take so many microseconds at most, or no
time. -/
structure KeepsLimits (world : World) (driver : Driver) : Prop where
  waits : Controller.WaitsExactly world driver.controller
  start (channel : Nat) : Controller.LastsAtMost 20000 driver.controller
    ((onController (Controller.start world channel)).perform driver).2.controller
  submit (channel : Nat) (order : Order) : Controller.LastsAtMost 5000 driver.controller
    ((onController (Controller.submit world channel order)).perform driver).2.controller
  stop (channel : Nat) : Controller.LastsAtMost 10000 driver.controller
    ((onController (Controller.stop world channel)).perform driver).2.controller
  stopManager : Controller.LastsAtMost 5000 driver.controller
    ((onController (Controller.stopManager world)).perform driver).2.controller
  onInterrupt : driver.AtOnce driver.onInterrupt.2
  dispatch (depth : Nat) : driver.AtOnce (driver.dispatchNested depth)

/-- Whatever the world does during the pauses and whatever state everything is in to begin
with, each wait ends exactly and all operations keep their limits. -/
theorem keepsLimits (world : World) (driver : Driver) : KeepsLimits world driver where
  waits := Controller.waitsExactly world driver.controller
  start channel := Demand.lastsAtMost (.start world channel) driver
  submit channel order := Demand.lastsAtMost (.submit world channel order) driver
  stop channel := Demand.lastsAtMost (.stop world channel) driver
  stopManager := Demand.lastsAtMost (.stopManager world) driver
  onInterrupt := Controller.lasts_onInterrupt driver.controller
  dispatch depth := delivering_atOnce.dispatchNested depth driver

end CyclicDma.Driver
