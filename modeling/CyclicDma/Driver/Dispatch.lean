import CyclicDma.Driver

/-! # Delivering periods

`dispatch` visits the channels in order. For each pending period of a channel it
calls all callbacks of the channel, in the order of registration, and then wakes
whoever waits for a period. The callbacks that a visit calls are the ones that
are registered when it begins.

Callbacks may react, also by dispatching again. Reactions nest up to a depth;
deeper ones are left out.
-/

namespace CyclicDma.Driver

/-- Carry out a reaction. -/
abbrev React := Reaction → Driver → Driver

/-- Kill a faulting channel that could not be killed before. -/
def retryAbort (channel : Nat) (driver : Driver) : Driver :=
  let controller := driver.controller
  let notifications := controller.notificationsOf channel
  if notifications.faulted && !notifications.aborted &&
      Controller.hasChannel (controller.read .channelFaultStatus) channel then
    driver.update (·.abort channel)
  else driver

def call (react : React) (channel : Nat) (driver : Driver) (registration : Registration) :
    Driver :=
  registration.callback.reactions.foldl (fun driver reaction => react reaction driver)
    (driver.update (·.record
      (.call registration.callback channel registration.context)))

/-- The calls that deliver some periods: for each period, all registrations in
order. -/
def calls (periods : Nat) (registrations : List Registration) : List Registration :=
  (List.replicate periods registrations).flatten

def wake (waker : Option Waker) (driver : Driver) : Driver :=
  match waker with
  | none => driver
  | some waker => driver.update (·.record (.wake waker))

/-- Deliver the pending periods of a channel. -/
def visit (react : React) (driver : Driver) (channel : Nat) : Driver :=
  let notifications := driver.controller.notificationsOf channel
  if notifications.pending = 0 && !notifications.faulted then driver
  else
    let taken := (driver.retryAbort channel).update fun controller =>
      controller.updateNotifications channel Notifications.take
        |>.record (.take channel notifications.pending)
    (calls notifications.pending.toNat notifications.registrations).foldl (call react channel)
        taken
      |>.wake notifications.waker

/-- Deliver all pending periods, with a way to carry out reactions. -/
def dispatchWith (react : React) (driver : Driver) : Driver :=
  (List.range driver.controller.managed).foldl (visit react) driver

/-- Deliver all pending periods. Reactions nest up to a depth. -/
def dispatchNested : (depth : Nat) → Driver → Driver
  | 0, driver => dispatchWith (fun _ driver => driver) driver
  | depth + 1, driver =>
      let react : React := fun reaction driver =>
        match reaction with
        | .removeOwner owner =>
            let (count, driver) := driver.removeOwner owner
            driver.update (·.record (.ownerRemoved count))
        | .interrupt =>
            let (handled, driver) := driver.onInterrupt
            driver.update (·.record (.interrupted handled))
        | .dispatch => (dispatchNested depth driver).update (·.record .dispatched)
      dispatchWith react driver

/-- Deliver all pending periods. Callbacks react, unless they are called by the
reaction of another one. -/
def dispatch (driver : Driver) : Driver :=
  dispatchNested 1 driver

end CyclicDma.Driver
