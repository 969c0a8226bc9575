import CyclicDma.Proofs.Controller.Commands
import CyclicDma.Proofs.Driver.Allocation
import CyclicDma.Proofs.Driver.Demands

/-! # Drivers launch channels only when they are asked to

A driver launches a channel when it is asked to start the channel or to submit to it.
Nothing else that is asked of a driver launches anything, and no delivery does, however deep
the reactions are nested.
-/

namespace CyclicDma.Driver

/-- Nothing is launched. -/
def Launchless (before after : Driver) : Prop :=
  Controller.GoesOn Event.IsLaunch before.controller after.controller

instance : Std.Refl Launchless :=
  ⟨fun _ => .refl ..⟩

instance : IsTrans Driver Launchless :=
  ⟨fun _ _ _ => .trans⟩

theorem launchless_record {event : Event} (hspared : ¬ event.IsLaunch) (driver : Driver) :
    Launchless driver (driver.update (·.record event)) :=
  ⟨[event], rfl, by simpa using hspared⟩

theorem delivering_launchless : Delivering Launchless where
  refl _ := .refl ..
  trans := .trans
  record event hreport driver := launchless_record hreport.isAside.not_isLaunch driver
  abort {channel driver} _ := (Controller.keeps_abort channel driver.controller).launchless
  take channel driver := ⟨[_], rfl, by simp [Event.IsLaunch]⟩
  removeOwner owner driver := .of_history rfl
  interrupt driver := Controller.launchless_onInterrupt driver.controller

/-! ## Channels that are handed over -/

theorem launchless_clearChannel (channel : Nat) (driver : Driver) :
    Launchless driver (driver.clearChannel channel) :=
  ⟨[_], rfl, by simp [Event.IsLaunch]⟩

theorem launchless_clearChannels (channels : List Nat) (driver : Driver) :
    Launchless driver (channels.foldl clearChannel driver) := by
  induction channels generalizing driver with
  | nil => exact Std.Refl.refl driver
  | cons channel channels ih =>
      exact IsTrans.trans _ _ _ (launchless_clearChannel channel driver) (ih _)

theorem launchless_init (region : Region) (busAddress : UInt32) (config : Config)
    (driver : Driver) :
    Launchless driver ((init region busAddress config).perform driver).2 := by
  rcases init_cases region busAddress config driver with
    ⟨error, logged, hfailed, hlogs⟩ | ⟨-, -, -, hopened⟩
  · rw [hfailed]
    rcases hlogs with rfl | ⟨verbosity, message, rfl⟩
    · exact Std.Refl.refl logged
    · exact (Controller.aside_logAt ..).launchless
  · rw [hopened]
    have hcleared := launchless_clearChannels (List.range (usableChannels
      (Device.ofRegisters driver.controller.registers) driver.controller)) driver
    exact Controller.GoesOn.trans hcleared (Controller.aside_log ..).launchless

theorem launchless_allocate (channel? : Option Nat) (driver : Driver) :
    Launchless driver ((allocate channel?).perform driver).2 := by
  cases hsetup : driver.controller.setup with
  | none =>
      rw [perform_allocate_of_none hsetup]
      exact Std.Refl.refl driver
  | some setup =>
      rw [perform_allocate hsetup]
      cases chooseChannel channel? setup with
      | error error => exact Std.Refl.refl driver
      | ok allocated => exact .of_history rfl

theorem launchless_release (channel : Nat) (driver : Driver) :
    Launchless driver ((release channel).perform driver).2 := by
  rw [perform_release]
  split
  · exact Std.Refl.refl driver
  · exact launchless_clearChannel channel driver

theorem launchless_deinit (driver : Driver) : Launchless driver (deinit.perform driver).2 := by
  cases hsetup : driver.controller.setup with
  | none =>
      rw [perform_deinit_of_none hsetup]
      exact Std.Refl.refl driver
  | some setup =>
      rw [perform_deinit hsetup]
      split
      · exact Std.Refl.refl driver
      · have hmasked : Launchless driver (driver.update fun controller =>
            controller.write .interruptEnable
              (controller.read .interruptEnable &&& ~~~channelBits setup.usable)) :=
          (Controller.aside_write ..).launchless
        exact Controller.GoesOn.trans hmasked
          (launchless_clearChannels (List.range driver.controller.managed) _)

/-! ## Demands -/

theorem launchless_register (channel : Nat) (callback : Callback) (context : UInt64)
    (owner : Option Nat) (driver : Driver) :
    Launchless driver ((register channel callback context owner).perform driver).2 := by
  cases hregister :
      (driver.controller.notificationsOf channel).register callback context owner with
  | error error =>
      rw [perform_register_of_error hregister]
      exact Std.Refl.refl driver
  | ok registered =>
      rw [perform_register_of_ok hregister]
      exact .of_history rfl

theorem launchless_unregister (channel : Nat) (id : UInt32) (driver : Driver) :
    Launchless driver ((unregister channel id).perform driver).2 := by
  cases hunregister : (driver.controller.notificationsOf channel).unregister id with
  | error error =>
      rw [perform_unregister_of_error hunregister]
      exact Std.Refl.refl driver
  | ok removed =>
      rw [perform_unregister_of_ok hunregister]
      exact .of_history rfl

theorem launchless_poll (future : PeriodFuture) (waker : Waker) (driver : Driver) :
    Launchless driver
      { driver with controller := (driver.controller.pollPeriod future waker).2 } := by
  rcases Controller.pollPeriod_cases future waker driver.controller with
    ⟨result, hready⟩ | hpending
  · rw [hready]
    exact Std.Refl.refl driver
  · rw [hpending]
    exact .of_history rfl

/-- The demand is to start a channel or to submit to it. -/
inductive Demand.Launches : Demand → Prop
  | submit (world channel order) : Launches (.submit world channel order)
  | start (world channel) : Launches (.start world channel)

/-- Whatever else is asked for, nothing is launched. -/
theorem Demand.launchless {demand : Demand} (hlaunches : ¬ demand.Launches) (driver : Driver) :
    Launchless driver (demand.perform driver) := by
  cases demand with
  | change changes => exact (Controller.aside_changeAll changes driver.controller).launchless
  | interrupt => exact delivering_launchless.interrupt driver
  | interrupted handled => exact delivering_launchless.record (.interrupted handled) trivial driver
  | deliver depth => exact delivering_launchless.dispatchNested depth driver
  | removeOwner owner => exact delivering_launchless.removeOwner owner driver
  | poll future waker => exact launchless_poll future waker driver
  | stopManager world =>
      exact (Controller.stopping_launchless .manager).stopThread world driver.controller
  | submit world channel order => exact absurd (.submit world channel order) hlaunches
  | start world channel => exact absurd (.start world channel) hlaunches
  | stop world channel =>
      have hnoted := Controller.launchless_noteAbort channel driver.controller
      have hstopping := Controller.stopping_launchless (.channel channel)
      exact hnoted.trans (hstopping.stopThread world (driver.controller.noteAbort channel))
  | register channel callback context owner =>
      exact launchless_register channel callback context owner driver
  | unregister channel id => exact launchless_unregister channel id driver
  | init region busAddress config => exact launchless_init region busAddress config driver
  | allocate channel? => exact launchless_allocate channel? driver
  | release channel => exact launchless_release channel driver
  | deinit => exact launchless_deinit driver

end CyclicDma.Driver
