import CyclicDma.Error

/-! # Notifications

Every channel has a small table of callbacks, which are called after each
period, in the order in which they were registered. Beside it stand the periods
that were acknowledged but not delivered yet, the marks that a fault leaves, and
the waker of whoever waits for the next period.

A callback may work on the controller that calls it. What it does there is a
list of reactions, so that it can be carried out, and reasoned about, like any
other operation.
-/

namespace CyclicDma

/-- What a callback does on the controller that calls it. -/
inductive Reaction where
  | removeOwner (owner : Nat)
  | interrupt
  | dispatch
deriving DecidableEq, Repr

/-- A callback, known by a number. -/
structure Callback where
  number : Nat
  reactions : List Reaction := []
deriving DecidableEq, Repr

/-- A callback in the table of a channel. -/
structure Registration where
  /-- Tells the registrations of a channel apart. -/
  id : UInt32
  callback : Callback
  /-- Handed to the callback. -/
  context : UInt64
  /-- The owner on whose behalf it was registered. -/
  owner : Option Nat
deriving DecidableEq, Repr

/-- What is woken after the next period. -/
inductive Waker where
  | silent
  | task (number : Nat)
deriving DecidableEq, Repr

/-- The notification state of a channel. -/
structure Notifications where
  /-- In the order in which they were made. -/
  registrations : List Registration := []
  nextId : UInt32 := 0
  /-- The periods that were acknowledged, but not delivered. -/
  pending : UInt32 := 0
  /-- The periods that were delivered, wrapping around. -/
  periods : UInt32 := 0
  /-- A fault was seen since the last delivery. -/
  faulted : Bool := false
  /-- The interrupt handler killed the channel. -/
  aborted : Bool := false
  waker : Option Waker := none
deriving DecidableEq, Repr

namespace Notifications

/-- The most registrations that a channel holds. -/
def maxRegistrations : Nat := 16

/-- The owners that the registrations name, one entry for each. -/
def owners (notifications : Notifications) : List Nat :=
  notifications.registrations.filterMap (·.owner)

/-- Add a registration at the end of the table. Returns its id. A full table
takes no more, and does not use up an id. -/
def register (callback : Callback) (context : UInt64) (owner : Option Nat)
    (notifications : Notifications) : Except DmaError (UInt32 × Notifications) :=
  if notifications.registrations.length < maxRegistrations then
    let id := notifications.nextId
    .ok (id, { notifications with
      registrations := notifications.registrations ++ [⟨id, callback, context, owner⟩]
      nextId := id + 1 })
  else .error .resourceExhausted

/-- Remove the registration with an id. Returns it. -/
def unregister (id : UInt32) (notifications : Notifications) :
    Except DmaError (Registration × Notifications) :=
  match notifications.registrations.find? (·.id = id) with
  | none => .error .notRegistered
  | some registration =>
      .ok (registration, { notifications with
        registrations := notifications.registrations.eraseP (·.id = id) })

variable {notifications later : Notifications}

theorem register_eq_ok {callback : Callback} {context : UInt64} {owner : Option Nat} {id : UInt32}
    (hregister : notifications.register callback context owner = .ok (id, later)) :
    later = { notifications with
      registrations :=
        notifications.registrations ++ [⟨notifications.nextId, callback, context, owner⟩]
      nextId := notifications.nextId + 1 } := by
  unfold register at hregister
  split at hregister <;> cases hregister
  rfl

theorem unregister_eq_ok {id : UInt32} {registration : Registration}
    (hunregister : notifications.unregister id = .ok (registration, later)) :
    notifications.registrations.find? (·.id = id) = some registration ∧
      later = { notifications with
        registrations := notifications.registrations.eraseP (·.id = id) } := by
  unfold unregister at hunregister
  split at hunregister <;> cases hunregister
  next hfound => exact ⟨hfound, rfl⟩

/-- The number of registrations that name an owner. -/
def countOwner (owner : Nat) (notifications : Notifications) : Nat :=
  notifications.owners.count owner

def removeOwner (owner : Nat) (notifications : Notifications) : Notifications :=
  { notifications with
    registrations := notifications.registrations.filter (·.owner ≠ some owner) }

/-- Count one more period as acknowledged, as far as the counter goes. -/
def addPending (notifications : Notifications) : Notifications :=
  { notifications with
    pending := if notifications.pending + 1 = 0 then notifications.pending
      else notifications.pending + 1 }

/-- Take all acknowledged periods and the fault mark for delivery, and count the
periods as delivered. Whoever waits is taken as well. -/
def take (notifications : Notifications) : Notifications :=
  { notifications with
    pending := 0
    periods := notifications.periods + notifications.pending
    faulted := false
    waker := none }

/-- Remove all registrations, and forget everything that was not delivered. -/
def clear (notifications : Notifications) : Notifications :=
  { notifications with
    registrations := []
    pending := 0
    faulted := false
    aborted := false
    waker := none }

end Notifications

end CyclicDma
