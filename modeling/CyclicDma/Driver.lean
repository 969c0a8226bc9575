import CyclicDma.Controller.Period
import CyclicDma.Controller.Submit

/-! # Drivers and owners

A registration may name an owner, and then holds a reference to it until the
registration is removed. Owners may have registrations at several controllers,
so their reference counts stand beside the controller: the driver of one
controller works on both.
-/

namespace CyclicDma

/-- The number of references to each owner. -/
abbrev References := List Nat

namespace References

/-- Add a reference to an owner. -/
def hold (owner : Nat) (references : References) : References :=
  references.modify owner (· + 1)

/-- Give up a reference to an owner. -/
def release (owner : Nat) (references : References) : References :=
  references.modify owner (· - 1)

/-- Give up a reference for each of the owners listed. -/
def releaseAll (owners : List Nat) (references : References) : References :=
  owners.foldl (fun references owner => references.release owner) references

end References

/-- A controller with the references to the owners of registrations. -/
structure Driver where
  controller : Controller
  references : References

namespace Driver

/-- Change the controller. -/
def update (change : Controller → Controller) (driver : Driver) : Driver :=
  { driver with controller := change driver.controller }

/-- Perform an operation that only works on the controller. -/
def onController {α : Type} (attempt : Attempt Controller α) : Attempt Driver α :=
  fun driver =>
    let (result, controller) := attempt.perform driver.controller
    (result, { driver with controller })

/-- Handle the interrupts of the controller. Tells whether there was any. -/
def onInterrupt (driver : Driver) : Bool × Driver :=
  let (handled, controller) := driver.controller.onInterrupt
  (handled, { driver with controller })

/-- Register a callback for the periods of a channel. Returns its id. -/
def register (channel : Nat) (callback : Callback) (context : UInt64) (owner : Option Nat) :
    Attempt Driver UInt32 := do
  match ((← get).controller.notificationsOf channel).register callback context owner with
  | .error error => throw error
  | .ok (id, notifications) =>
      modify fun driver =>
        { controller := driver.controller.updateNotifications channel fun _ => notifications
          references := owner.elim driver.references (References.hold · driver.references) }
      return id

/-- Remove a registration of a channel. -/
def unregister (channel : Nat) (id : UInt32) : Attempt Driver Unit := do
  match ((← get).controller.notificationsOf channel).unregister id with
  | .error error => throw error
  | .ok (registration, notifications) =>
      modify fun driver =>
        { controller := driver.controller.updateNotifications channel fun _ => notifications
          references := driver.references.releaseAll registration.owner.toList }

/-- Remove all registrations that name an owner, on all channels. Returns how
many there were. -/
def removeOwner (owner : Nat) (driver : Driver) : Nat × Driver :=
  let controller := driver.controller
  let count := controller.notifications.foldl (fun count slots => count + slots.countOwner owner) 0
  (count,
    { controller :=
        { controller with
          notifications := controller.notifications.map (·.removeOwner owner) }
      references := driver.references.releaseAll (List.replicate count owner) })

/-- Remove all registrations of a channel, and forget what was not delivered. -/
def clearChannel (driver : Driver) (channel : Nat) : Driver :=
  let notifications := driver.controller.notificationsOf channel
  { controller :=
      (driver.controller.record (.discard channel notifications.pending)).updateNotifications
        channel Notifications.clear
    references := driver.references.releaseAll notifications.owners }

end Driver

end CyclicDma
