import CyclicDma.Proofs.Controller.Quiet
import CyclicDma.Proofs.Driver.Delivery
import CyclicDma.Proofs.Driver.Tally

/-! # The acts of a driver

Whatever a driver is asked for, it acts step by step: it handles interrupts, takes
the periods of a channel, calls a registration, removes an owner. What an act does to
the notification state of a channel is said here once.
-/

namespace CyclicDma

/-- What a driver does at a time. -/
inductive Act where
  /-- Registers, messages or the setup change. -/
  | work
  | interrupt
  /-- A visit to a channel takes the pending periods. -/
  | take (channel : Nat)
  /-- A visit to a channel finds nothing to deliver. -/
  | pass (channel : Nat)
  | call (channel : Nat) (registration : Registration)
  /-- A visit to a channel is over, and whoever waited is woken. -/
  | finish (channel : Nat) (waker : Option Waker)
  | removeOwner (owner : Nat)
  /-- A poll is pending. -/
  | await (channel : Nat) (waker : Waker)
  | register (channel : Nat) (owner : Option Nat)
  | unregister (channel : Nat) (id : UInt32)
  /-- The holder of a channel takes note of an abort. -/
  | note (channel : Nat)
  | clear (channel : Nat)

/-- Who is called or woken by the act. -/
def Act.deliveries : Act → List Event
  | call channel registration => [.call registration.callback channel registration.context]
  | finish _ (some waker) => [.wake waker]
  | _ => []

/-- The act removes a registration of a channel. -/
def Act.Removes (channel : Nat) (registration : Registration) : Act → Prop
  | removeOwner owner => registration.owner = some owner
  | unregister other id => other = channel ∧ registration.id = id
  | clear other => other = channel
  | _ => False

namespace Driver

/-- A driver acts. -/
inductive Does : Act → Driver → Driver → Prop
  | work {before after : Driver}
      (hquiet : Controller.Quiet before.controller after.controller)
      (hreferences : after.references = before.references) : Does .work before after
  | interrupt (driver) : Does .interrupt driver driver.onInterrupt.2
  | take {channel driver} (hdue : driver.Due channel) :
      Does (.take channel) driver (driver.taken channel)
  | pass {channel driver} (hdue : ¬ driver.Due channel) : Does (.pass channel) driver driver
  | call (channel registration driver) :
      Does (.call channel registration) driver
        (driver.update (·.record (.call registration.callback channel registration.context)))
  | finish (channel waker driver) : Does (.finish channel waker) driver (driver.wake waker)
  | removeOwner (owner driver) : Does (.removeOwner owner) driver (driver.removeOwner owner).2
  | await (channel waker driver) :
      Does (.await channel waker) driver (driver.update (·.setWaker waker channel))
  | register {driver : Driver} {channel callback context owner id notifications}
      (hmanaged : channel < driver.controller.managed)
      (hregister : (driver.controller.notificationsOf channel).register callback context owner =
        .ok (id, notifications)) :
      Does (.register channel owner) driver
        ((register channel callback context owner).perform driver).2
  | unregister {driver : Driver} {channel id registration notifications}
      (hunregister : (driver.controller.notificationsOf channel).unregister id =
        .ok (registration, notifications)) :
      Does (.unregister channel id) driver ((unregister channel id).perform driver).2
  | note (channel driver) :
      Does (.note channel) driver
        (driver.update (·.updateNotifications channel ({ · with aborted := false })))
  | clear (channel driver) : Does (.clear channel) driver (driver.clearChannel channel)

variable {act : Act} {before after driver : Driver} {channel : Nat}

theorem Logs.quiet (hlogs : Logs before after) :
    Controller.Quiet before.controller after.controller := by
  rcases hlogs with rfl | ⟨verbosity, message, rfl⟩
  · exact .refl _
  · exact Controller.quiet_logAt ..

theorem managed_taken (channel : Nat) (driver : Driver) :
    (driver.taken channel).controller.managed = driver.controller.managed :=
  (Controller.managed_updateNotifications ..).trans (retryAbort_frame channel driver).1.managed

theorem Does.managed (hdoes : Does act before after) :
    after.controller.managed = before.controller.managed := by
  cases hdoes with
  | work hquiet => exact hquiet.managed
  | interrupt =>
      obtain ⟨-, -, hmanaged, -⟩ := Controller.onInterrupt_frame before.controller
      exact hmanaged
  | take => exact managed_taken ..
  | pass | call => rfl
  | finish _ waker => cases waker <;> rfl
  | removeOwner => exact List.length_map ..
  | await | note | clear => exact Controller.managed_updateNotifications ..
  | register _ hregister =>
      rw [perform_register_of_ok hregister]
      exact Controller.managed_updateNotifications ..
  | unregister hunregister =>
      rw [perform_unregister_of_ok hunregister]
      exact Controller.managed_updateNotifications ..

/-! ## Acts and the state of a channel -/

/-- What an act does to the notification state of a channel. -/
inductive Alters (channel : Nat) : Act → Notifications → Notifications → Prop
  | keep (act notifications) : Alters channel act notifications notifications
  | interrupt (notifications) (pending faulted aborted) :
      Alters channel .interrupt notifications { notifications with pending, faulted, aborted }
  | take (notifications) (aborted) :
      Alters channel (.take channel) notifications { notifications.take with aborted }
  | removeOwner (owner notifications) :
      Alters channel (.removeOwner owner) notifications (notifications.removeOwner owner)
  | await (waker) (notifications) :
      Alters channel (.await channel waker) notifications { notifications with waker := some waker }
  | register {callback context owner id} {notifications later : Notifications}
      (hregister : notifications.register callback context owner = .ok (id, later)) :
      Alters channel (.register channel owner) notifications later
  | unregister {id registration} {notifications later : Notifications}
      (hunregister : notifications.unregister id = .ok (registration, later)) :
      Alters channel (.unregister channel id) notifications later
  | note (notifications) :
      Alters channel (.note channel) notifications { notifications with aborted := false }
  | clear (notifications) : Alters channel (.clear channel) notifications notifications.clear

/-- An update of one channel is what an act does to it, and leaves the other ones as
they are. -/
theorem alters_update {controller : Controller} {other : Nat}
    {update : Notifications → Notifications}
    (hupdate : Alters other act (controller.notificationsOf other)
      (update (controller.notificationsOf other))) (channel : Nat) :
    Alters channel act (controller.notificationsOf channel)
      ((controller.updateNotifications other update).notificationsOf channel) := by
  rw [Controller.notificationsOf_updateNotifications]
  split
  next hboth =>
    obtain ⟨rfl, -⟩ := hboth
    exact hupdate
  next => exact .keep act _

theorem notificationsOf_taken_of_ne {other : Nat} (hne : channel ≠ other) (driver : Driver) :
    (driver.taken other).controller.notificationsOf channel =
      driver.controller.notificationsOf channel := by
  have htried : (driver.retryAbort other).controller.notificationsOf channel =
      driver.controller.notificationsOf channel := by
    rcases retryAbort_cases other driver with hkept | ⟨-, htried⟩
    · rw [hkept]
    · rw [htried]
      exact Controller.notificationsOf_abort_of_ne hne driver.controller
  refine Eq.trans ?_ htried
  exact Controller.notificationsOf_updateNotifications_of_ne _ hne

/-- A visit takes what is pending. The channel may be killed before. -/
theorem taken_marks (hmanaged : channel < driver.controller.managed) :
    ∃ aborted, (driver.taken channel).controller.notificationsOf channel =
      { (driver.controller.notificationsOf channel).take with aborted } := by
  have htried : ∃ aborted, (driver.retryAbort channel).controller.notificationsOf channel =
      { driver.controller.notificationsOf channel with aborted } := by
    rcases retryAbort_cases channel driver with hkept | ⟨-, htried⟩
    · exact ⟨_, by rw [hkept]⟩
    · rw [htried]
      exact Controller.notificationsOf_abort hmanaged
  obtain ⟨aborted, htried⟩ := htried
  exact ⟨aborted, by rw [notificationsOf_taken hmanaged, htried]; rfl⟩

theorem notificationsOf_removeOwner (owner channel : Nat) (driver : Driver) :
    (driver.removeOwner owner).2.controller.notificationsOf channel =
      (driver.controller.notificationsOf channel).removeOwner owner :=
  List.getD_map driver.controller.notifications {} (·.removeOwner owner)

theorem Does.alters (hdoes : Does act before after) (channel : Nat) :
    Alters channel act (before.controller.notificationsOf channel)
      (after.controller.notificationsOf channel) := by
  cases hdoes with
  | work hquiet =>
      rw [hquiet.notificationsOf]
      exact .keep ..
  | interrupt =>
      obtain ⟨faulted, aborted, hmarks⟩ :=
        Controller.sameButMarks_onInterrupt channel before.controller
      have hcounted : ∃ pending,
          before.controller.counted before.controller.raised channel =
            { before.controller.notificationsOf channel with pending } := by
        unfold Controller.counted
        split
        · exact ⟨_, rfl⟩
        · exact ⟨_, rfl⟩
      obtain ⟨pending, hpending⟩ := hcounted
      have hafter : before.onInterrupt.2.controller.notificationsOf channel =
          { before.controller.notificationsOf channel with pending, faulted, aborted } := by
        rw [hpending] at hmarks
        exact hmarks
      rw [hafter]
      exact .interrupt ..
  | @take other _ hdue =>
      by_cases hsame : channel = other
      · subst hsame
        obtain ⟨aborted, htaken⟩ := taken_marks hdue.managed
        rw [htaken]
        exact .take ..
      · rw [notificationsOf_taken_of_ne hsame]
        exact .keep ..
  | pass | call => exact .keep ..
  | finish _ waker => cases waker <;> exact .keep ..
  | removeOwner owner =>
      rw [notificationsOf_removeOwner]
      exact .removeOwner ..
  | await other waker => exact alters_update (.await waker _) channel
  | register _ hregister =>
      rw [perform_register_of_ok hregister]
      exact alters_update (.register hregister) channel
  | unregister hunregister =>
      rw [perform_unregister_of_ok hunregister]
      exact alters_update (.unregister hunregister) channel
  | note other => exact alters_update (.note _) channel
  | clear other => exact alters_update (.clear _) channel

/-! ## Acts and deliveries -/

/-- Only calls and wakes are deliveries, one for each. -/
theorem Does.deliveries (hdoes : Does act before after) :
    after.controller.deliveries = act.deliveries ++ before.controller.deliveries := by
  cases hdoes with
  | work hquiet => exact hquiet.deliveries
  | interrupt => exact Controller.deliveries_onInterrupt before.controller
  | @take channel =>
      have htried : (before.retryAbort channel).controller.deliveries =
          before.controller.deliveries := by
        rcases retryAbort_cases channel before with hkept | ⟨-, htried⟩
        · rw [hkept]
        · rw [htried]
          exact Controller.deliveries_abort ..
      refine Eq.trans ?_ htried
      exact List.filter_cons_of_neg (by simpa using show ¬ (Event.take channel _).IsDelivery from id)
  | pass => rfl
  | call channel registration =>
      exact List.filter_cons_of_pos (by simpa using show Event.IsDelivery (.call ..) from trivial)
  | finish _ waker =>
      cases waker with
      | none => rfl
      | some waker =>
          exact List.filter_cons_of_pos (by simpa using show Event.IsDelivery (.wake waker) from trivial)
  | removeOwner | await | note => rfl
  | register _ hregister =>
      rw [perform_register_of_ok hregister]
      rfl
  | unregister hunregister =>
      rw [perform_unregister_of_ok hunregister]
      rfl
  | clear channel =>
      exact List.filter_cons_of_neg
        (by simpa using show ¬ (Event.discard channel _).IsDelivery from id)

/-! ## Acts and references -/

/-- An act takes and gives up the references that belong to registrations. -/
theorem Does.tallies (hdoes : Does act before after) : Tallies before after := by
  cases hdoes with
  | work hquiet hreferences => exact Tallies.of_keep (by rw [hquiet.notifications]) hreferences
  | interrupt =>
      exact Tallies.of_keep
        (Controller.sameAssignment_onInterrupt before.controller).registrations rfl
  | @take channel =>
      have htaken : Uses (fun _ => True) (· < before.controller.managed) before
          (before.taken channel) := delivering_uses.taken channel before
      exact htaken.moves.tallies rfl
  | pass => exact .refl
  | call => exact Tallies.of_keep rfl rfl
  | finish _ waker => cases waker <;> exact Tallies.of_keep rfl rfl
  | removeOwner owner => exact .single ⟨[], _, .removeOwner owner before⟩
  | await | note =>
      exact Tallies.of_keep
        (Controller.sameAssignment_updateNotifications (by exact fun _ => rfl) _).registrations rfl
  | register hmanaged hregister => exact .single ⟨_, [], .register hmanaged hregister⟩
  | unregister hunregister => exact .single ⟨[], _, .unregister hunregister⟩
  | clear channel => exact .single ⟨[], _, .clear channel before⟩

end Driver

end CyclicDma
