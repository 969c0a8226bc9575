import CyclicDma.Driver.Dispatch
import CyclicDma.Proofs.Controller.Operations

/-! # Operations of a driver are sequences of steps

A driver takes steps of its controller, also while it delivers periods: whatever
a callback does on the controller is a sequence of steps, however deep the
reactions are nested.
-/

namespace CyclicDma.Driver

/-- The controller of the driver takes any number of steps. -/
def Steps (before after : Driver) : Prop :=
  Controller.Steps before.controller after.controller

variable {driver : Driver}

theorem Steps.refl (driver : Driver) : Steps driver driver :=
  Relation.ReflTransGen.refl

theorem Steps.trans {before middle after : Driver} (hfirst : Steps before middle)
    (hsecond : Steps middle after) : Steps before after :=
  Relation.ReflTransGen.trans hfirst hsecond

theorem Steps.foldl {α : Type} {step : Driver → α → Driver}
    (hstep : ∀ driver item, Steps driver (step driver item)) (items : List α) (driver : Driver) :
    Steps driver (items.foldl step driver) := by
  induction items generalizing driver with
  | nil => exact .refl driver
  | cons item items ih => exact (hstep driver item).trans (ih _)

theorem steps_record (event : Event) (haside : event.IsAside) (driver : Driver) :
    Steps driver (driver.update (·.record event)) :=
  Controller.Steps.aside (Controller.aside_record haside driver.controller)

theorem steps_onInterrupt (driver : Driver) : Steps driver driver.onInterrupt.2 :=
  Relation.ReflTransGen.single (.thread (.interrupt driver.controller))

theorem follows_onController {α : Type} {relation : Driver → Driver → Prop}
    {attempt : Attempt Controller α}
    (hattempt : ∀ controller references, relation ⟨controller, references⟩
      ⟨(attempt.perform controller).2, references⟩) :
    Follows relation (onController attempt) :=
  fun driver => hattempt driver.controller driver.references

theorem perform_onController {α : Type} (attempt : Attempt Controller α) (driver : Driver) :
    (onController attempt).perform driver =
      ((attempt.perform driver.controller).1,
        { driver with controller := (attempt.perform driver.controller).2 }) :=
  rfl

/-! ## Registrations -/

section

variable {channel : Nat} {callback : Callback} {context : UInt64} {owner : Option Nat}
variable {id : UInt32} {registration : Registration} {notifications : Notifications}
variable {error : DmaError}

/-- A registration that is refused changes nothing. -/
theorem perform_register_of_error
    (hregister : (driver.controller.notificationsOf channel).register callback context owner =
      .error error) :
    (register channel callback context owner).perform driver = (.error error, driver) := by
  unfold register
  rw [Attempt.perform_bind, Attempt.perform_get]
  dsimp only
  rw [hregister]
  rfl

theorem perform_register_of_ok
    (hregister : (driver.controller.notificationsOf channel).register callback context owner =
      .ok (id, notifications)) :
    (register channel callback context owner).perform driver =
      (.ok id,
        { controller := driver.controller.updateNotifications channel fun _ => notifications
          references := owner.elim driver.references (References.hold · driver.references) }) := by
  unfold register
  rw [Attempt.perform_bind, Attempt.perform_get]
  dsimp only
  rw [hregister]
  rfl

/-- Nothing changes when there is no registration with the id. -/
theorem perform_unregister_of_error
    (hunregister : (driver.controller.notificationsOf channel).unregister id = .error error) :
    (unregister channel id).perform driver = (.error error, driver) := by
  unfold unregister
  rw [Attempt.perform_bind, Attempt.perform_get]
  dsimp only
  rw [hunregister]
  rfl

theorem perform_unregister_of_ok
    (hunregister : (driver.controller.notificationsOf channel).unregister id =
      .ok (registration, notifications)) :
    (unregister channel id).perform driver =
      (.ok (),
        { controller := driver.controller.updateNotifications channel fun _ => notifications
          references := driver.references.releaseAll registration.owner.toList }) := by
  unfold unregister
  rw [Attempt.perform_bind, Attempt.perform_get]
  dsimp only
  rw [hunregister]
  rfl

end

theorem follows_register (channel : Nat) (callback : Callback) (context : UInt64)
    (owner : Option Nat) : Follows Steps (register channel callback context owner) := by
  intro driver
  change Steps driver ((register channel callback context owner).perform driver).2
  cases hregister :
      (driver.controller.notificationsOf channel).register callback context owner with
  | error error =>
      rw [perform_register_of_error hregister]
      exact .refl driver
  | ok registered =>
      rw [perform_register_of_ok hregister]
      exact Relation.ReflTransGen.single (.register hregister)

theorem follows_unregister (channel : Nat) (id : UInt32) :
    Follows Steps (unregister channel id) := by
  intro driver
  change Steps driver ((unregister channel id).perform driver).2
  cases hunregister : (driver.controller.notificationsOf channel).unregister id with
  | error error =>
      rw [perform_unregister_of_error hunregister]
      exact .refl driver
  | ok removed =>
      rw [perform_unregister_of_ok hunregister]
      exact Relation.ReflTransGen.single (.unregister hunregister)

theorem steps_removeOwner (owner : Nat) (driver : Driver) :
    Steps driver (driver.removeOwner owner).2 :=
  Relation.ReflTransGen.single (.removeOwner owner driver.controller)

theorem steps_clearChannel (driver : Driver) (channel : Nat) :
    Steps driver (driver.clearChannel channel) :=
  Relation.ReflTransGen.single (.discardPending channel driver.controller)

/-! ## Delivery -/

/-- A visit to the channel tries to kill it: its fault is marked, it is still faulting,
and it was not killed before. -/
structure Retries (channel : Nat) (driver : Driver) : Prop where
  marked : (driver.controller.notificationsOf channel).faulted = true
  live : (driver.controller.notificationsOf channel).aborted = false
  faulting : Controller.hasChannel (driver.controller.read .channelFaultStatus) channel = true

/-- A preorder that is followed by everything that deliveries are made of. -/
structure Delivering (relation : Driver → Driver → Prop) : Prop where
  refl (driver : Driver) : relation driver driver
  trans {first second third : Driver} (hfirst : relation first second)
    (hsecond : relation second third) : relation first third
  record (event : Event) (hreport : event.IsReport) (driver : Driver) :
    relation driver (driver.update (·.record event))
  abort {channel : Nat} {driver : Driver} (hretries : driver.Retries channel) :
    relation driver (driver.update (·.abort channel))
  take (channel : Nat) (driver : Driver) : relation driver (driver.update (·.takePending channel))
  removeOwner (owner : Nat) (driver : Driver) : relation driver (driver.removeOwner owner).2
  interrupt (driver : Driver) : relation driver driver.onInterrupt.2

theorem delivering_steps : Delivering Steps where
  refl := .refl
  trans := .trans
  record event hreport := steps_record event hreport.isAside
  abort _ := (Controller.threadSteps_abort _ _).steps
  take channel driver := Relation.ReflTransGen.single (.takePending channel driver.controller)
  removeOwner := steps_removeOwner
  interrupt := steps_onInterrupt

theorem retryAbort_of_retries {channel : Nat} (hretries : driver.Retries channel) :
    driver.retryAbort channel = driver.update (·.abort channel) :=
  if_pos (by simp [hretries.marked, hretries.live, hretries.faulting])

theorem retryAbort_of_not_retries {channel : Nat} (hretries : ¬ driver.Retries channel) :
    driver.retryAbort channel = driver := by
  refine if_neg fun htries => hretries ?_
  simp only [Bool.and_eq_true, Bool.not_eq_eq_eq_not, Bool.not_true] at htries
  obtain ⟨⟨hmarked, hlive⟩, hfaulting⟩ := htries
  exact ⟨hmarked, hlive, hfaulting⟩

/-- A channel whose fault is marked may be killed now. -/
theorem retryAbort_cases (channel : Nat) (driver : Driver) :
    driver.retryAbort channel = driver ∨
      driver.Retries channel ∧ driver.retryAbort channel = driver.update (·.abort channel) := by
  by_cases hretries : driver.Retries channel
  · exact .inr ⟨hretries, retryAbort_of_retries hretries⟩
  · exact .inl (retryAbort_of_not_retries hretries)

theorem retryAbort_of_busy (hbusy : driver.controller.isDebugBusy = true) (channel : Nat) :
    driver.retryAbort channel = driver := by
  rcases retryAbort_cases channel driver with hkept | ⟨-, htried⟩
  · exact hkept
  · rw [htried, update, Controller.abort_of_busy hbusy]

/-- That leaves everything but the marks of its fault alone. -/
theorem retryAbort_frame (channel : Nat) (driver : Driver) :
    Controller.Keeps driver.controller (driver.retryAbort channel).controller ∧
      (driver.controller.notificationsOf channel).SameButMarks
        ((driver.retryAbort channel).controller.notificationsOf channel) := by
  rcases retryAbort_cases channel driver with hkept | ⟨-, htried⟩
  · rw [hkept]
    exact ⟨.refl _, .refl _⟩
  · rw [htried]
    exact ⟨Controller.keeps_abort .., Controller.sameButMarks_abort ..⟩

/-- The driver when a visit to a channel has taken the pending periods. -/
def taken (channel : Nat) (driver : Driver) : Driver :=
  (driver.retryAbort channel).update (·.takePending channel)

/-- A visit to the channel has something to deliver: periods, or the news of a
fault. -/
def Due (channel : Nat) (driver : Driver) : Prop :=
  (driver.controller.notificationsOf channel).pending ≠ 0 ∨
    (driver.controller.notificationsOf channel).faulted = true

/-- A channel that has something to deliver is managed. -/
theorem Due.managed {channel : Nat} (hdue : driver.Due channel) :
    channel < driver.controller.managed := by
  rcases Nat.lt_or_ge channel driver.controller.managed with hmanaged | hout
  · exact hmanaged
  · rw [Due, Controller.notificationsOf_of_ge _ hout] at hdue
    exact hdue.elim (absurd rfl) nofun

theorem Retries.managed {channel : Nat} (hretries : driver.Retries channel) :
    channel < driver.controller.managed :=
  Due.managed (.inr hretries.marked)

theorem visit_of_not_due {react : React} {channel : Nat} (hdue : ¬ driver.Due channel) :
    visit react driver channel = driver := by
  obtain ⟨hnone, hsound⟩ := not_or.mp hdue
  exact if_pos (by simp [Decidable.not_not.mp hnone, Bool.eq_false_iff.mpr hsound])

/-- A visit takes the pending periods, calls the registrations for each of them
and wakes whoever waits. -/
theorem visit_of_due {react : React} {channel : Nat} (hdue : driver.Due channel) :
    visit react driver channel =
      ((calls (driver.controller.notificationsOf channel).pending.toNat
        (driver.controller.notificationsOf channel).registrations).foldl (call react channel)
          (driver.taken channel)).wake (driver.controller.notificationsOf channel).waker := by
  obtain ⟨-, _, _, hmarks⟩ := retryAbort_frame channel driver
  have hpending : ((driver.retryAbort channel).controller.notificationsOf channel).pending =
      (driver.controller.notificationsOf channel).pending := by
    rw [hmarks]
  have hvisited : ¬ ((driver.controller.notificationsOf channel).pending = 0 &&
      !(driver.controller.notificationsOf channel).faulted) := by
    rcases hdue with hsome | hfault
    · simp [hsome]
    · simp [hfault]
  unfold visit
  dsimp only
  rw [if_neg hvisited, taken, update, update, Controller.takePending, hpending]

/-- How the reactions of callbacks are carried out at a depth. -/
def reaction : (depth : Nat) → React
  | 0, _, driver => driver
  | _ + 1, .removeOwner owner, driver =>
      (driver.removeOwner owner).2.update (·.record (.ownerRemoved (driver.removeOwner owner).1))
  | _ + 1, .interrupt, driver =>
      driver.onInterrupt.2.update (·.record (.interrupted driver.onInterrupt.1))
  | depth + 1, .dispatch, driver => (driver.dispatchNested depth).update (·.record .dispatched)

theorem dispatchNested_eq (depth : Nat) (driver : Driver) :
    driver.dispatchNested depth = dispatchWith (reaction depth) driver := by
  cases depth with
  | zero => rfl
  | succ depth =>
      refine congrArg (dispatchWith · driver) (funext fun reaction => funext fun driver => ?_)
      cases reaction <;> rfl

namespace Delivering

variable {relation : Driver → Driver → Prop} (hparts : Delivering relation)
variable {react : React} (hreact : ∀ reaction driver, relation driver (react reaction driver))

include hparts

theorem foldl {α : Type} {step : Driver → α → Driver}
    (hstep : ∀ driver item, relation driver (step driver item)) (items : List α)
    (driver : Driver) : relation driver (items.foldl step driver) := by
  induction items generalizing driver with
  | nil => exact hparts.refl driver
  | cons item items ih => exact hparts.trans (hstep driver item) (ih _)

theorem taken (channel : Nat) (driver : Driver) : relation driver (driver.taken channel) := by
  have htried : relation driver (driver.retryAbort channel) := by
    rcases retryAbort_cases channel driver with hkept | ⟨hretries, htried⟩
    · rw [hkept]
      exact hparts.refl driver
    · rw [htried]
      exact hparts.abort hretries
  exact hparts.trans htried (hparts.take channel _)

theorem wake (waker : Option Waker) (driver : Driver) : relation driver (driver.wake waker) := by
  cases waker with
  | none => exact hparts.refl driver
  | some waker => exact hparts.record (.wake waker) trivial driver

include hreact

theorem call (channel : Nat) (driver : Driver) (registration : Registration) :
    relation driver (Driver.call react channel driver registration) :=
  hparts.trans (hparts.record (.call ..) trivial driver)
    (hparts.foldl (fun driver reaction => hreact reaction driver) _ _)

theorem visit (driver : Driver) (channel : Nat) :
    relation driver (Driver.visit react driver channel) := by
  by_cases hdue : driver.Due channel
  · rw [visit_of_due hdue]
    exact hparts.trans
      (hparts.trans (hparts.taken channel driver) (hparts.foldl (hparts.call hreact channel) _ _))
      (hparts.wake _ _)
  · rw [visit_of_not_due hdue]
    exact hparts.refl driver

theorem dispatchWith (driver : Driver) : relation driver (Driver.dispatchWith react driver) :=
  hparts.foldl (hparts.visit hreact) _ driver

omit hreact

/-- A reaction follows the relation, and so does what it delivers in turn. -/
theorem reaction (depth : Nat) (reaction : Reaction) (driver : Driver) :
    relation driver (Driver.reaction depth reaction driver) := by
  induction depth generalizing reaction driver with
  | zero => exact hparts.refl driver
  | succ depth ih =>
      cases reaction with
      | removeOwner owner =>
          exact hparts.trans (hparts.removeOwner owner driver)
            (hparts.record (.ownerRemoved _) trivial _)
      | interrupt => exact hparts.trans (hparts.interrupt driver) (hparts.record (.interrupted _) trivial _)
      -- callbacks that are called here react at the depth below
      | dispatch =>
          have hdelivered := hparts.dispatchWith ih driver
          rw [← dispatchNested_eq] at hdelivered
          exact hparts.trans hdelivered (hparts.record .dispatched trivial _)

theorem dispatchNested (depth : Nat) (driver : Driver) :
    relation driver (driver.dispatchNested depth) :=
  dispatchNested_eq .. ▸ hparts.dispatchWith (hparts.reaction depth) driver

end Delivering

end CyclicDma.Driver
