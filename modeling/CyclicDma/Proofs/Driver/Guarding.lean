import CyclicDma.Proofs.Controller.Guarding
import CyclicDma.Proofs.Driver.Demands
import CyclicDma.Proofs.Driver.Hearing

/-! # Guarding channels through a driver

A guarded channel of the controller stays guarded, whatever the driver is asked for, as
long as nobody asks it to submit to that channel, to start it or to stop it. Deliveries may
kill channels, and only channels that do not run are handed over.
-/

namespace CyclicDma.Driver

variable {before after : Driver} {channel : Nat}

/-- A guarded channel of the driver's controller stays guarded. -/
def Guards (channel : Nat) (before after : Driver) : Prop :=
  Controller.Guards channel before.controller after.controller

instance : Std.Refl (Guards channel) :=
  ⟨fun _ => .refl _⟩

instance : IsTrans Driver (Guards channel) :=
  ⟨fun _ _ _ => .trans⟩

/-- Whoever is handed a channel over takes over what guards it. -/
theorem Hands.guards (hhands : Hands before after) (hsteps : Steps before after) :
    Guards channel before after :=
  ⟨Controller.Steps.managed hsteps, fun _ hguarded => (hhands channel).guarded hguarded⟩

theorem delivering_guards : Delivering (Guards channel) where
  refl _ := .refl _
  trans := .trans
  record event hreport driver :=
    .of_eq rfl (Controller.standings_record hreport.drives?_eq_none driver.controller)
  abort {killed driver} hretries := by
    have hmanaged := hretries.managed
    have hattends (hbound : driver.controller.managed ≤ 32) :
        Controller.Attends True driver.controller (driver.controller.abort killed) :=
      Controller.attends_abort trivial hmanaged (Nat.lt_of_lt_of_le hmanaged hbound)
    exact .of_attends (Controller.keeps_abort killed driver.controller).managed hattends
  take taken driver := by
    have htaken : (driver.controller.takePending taken).standings =
        (driver.controller.updateNotifications taken Notifications.take).standings :=
      Controller.standings_record (fun _ => rfl) _
    exact .of_eq (Controller.managed_updateNotifications ..)
      (htaken.trans (Controller.standings_updateNotifications (by exact fun _ => rfl) ..))
  removeOwner owner driver :=
    .of_eq (List.length_map ..) (Controller.standings_notifications (List.map_map ..))
  interrupt driver := Controller.guards_onInterrupt driver.controller

/-- The demand is to submit to the channel, to start it or to stop it. -/
inductive Demand.Drives (channel : Nat) : Demand → Prop
  | submit (world order) : Drives channel (.submit world channel order)
  | start (world) : Drives channel (.start world channel)
  | stop (world) : Drives channel (.stop world channel)

/-- Whatever else is asked for, a guarded channel stays guarded. -/
theorem Demand.guards {demand : Demand} (hdrives : ¬ demand.Drives channel) (driver : Driver) :
    Guards channel driver (demand.perform driver) := by
  cases demand with
  | change changes => exact Controller.guards_changeAll changes driver.controller
  | interrupt => exact delivering_guards.interrupt driver
  | interrupted handled => exact delivering_guards.record (.interrupted handled) trivial driver
  | deliver depth => exact delivering_guards.dispatchNested depth driver
  | removeOwner owner => exact delivering_guards.removeOwner owner driver
  | poll future waker =>
      exact .of_eq (Controller.Steps.managed (Controller.steps_pollPeriod ..))
        (standings_pollPeriod future waker driver.controller)
  | stopManager world =>
      have hmanager : ThreadId.manager ≠ .channel channel := by exact nofun
      exact (Controller.stopping_guards hmanager).stopThread world driver.controller
  | submit world driven order =>
      have hne : channel ≠ driven := fun hsame => hdrives (hsame ▸ .submit world order)
      exact (Controller.submitting_guards hne).submit world order driver.controller
  | start world driven =>
      have hne : channel ≠ driven := fun hsame => hdrives (hsame ▸ .start world)
      exact (Controller.submitting_guards hne).start world driver.controller
  | stop world driven =>
      have hne : channel ≠ driven := fun hsame => hdrives (hsame ▸ .stop world)
      exact (Controller.submitting_guards hne).stop world driver.controller
  | register registered callback context owner =>
      have hsteps := follows_register registered callback context owner driver
      exact .of_eq (Controller.Steps.managed hsteps)
        (standings_register registered callback context owner driver)
  | unregister registered id =>
      have hsteps := follows_unregister registered id driver
      exact .of_eq (Controller.Steps.managed hsteps) (standings_unregister registered id driver)
  | init region busAddress config =>
      exact (hands_init region busAddress config driver).guards
        (follows_init region busAddress config driver)
  | allocate index => exact (hands_allocate index driver).guards (follows_allocate index driver)
  | release released =>
      exact (hands_release released driver).guards (follows_release released driver)
  | deinit => exact (hands_deinit driver).guards (follows_deinit driver)

end CyclicDma.Driver
