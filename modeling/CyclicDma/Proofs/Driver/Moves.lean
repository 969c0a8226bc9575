import CyclicDma.Proofs.Controller.Assignment
import CyclicDma.Proofs.Driver.Allocation

/-! # Moves of a driver

Clients and the outside world ask a driver to use its controller, or to set it up.
Each request is a move of the driver. A move says what may happen while the driver
waits, and which channels it may be asked about, so what holds of a driver at all
times is proved of each move, under the conditions that it needs.
-/

namespace CyclicDma

variable {allowed : Disturbance → Prop} {held : Nat → Prop}

namespace Driver

/-- What a driver does while its controller is in use: what clients and the outside
world ask for, and the parts of deliveries. -/
inductive Use (allowed : Disturbance → Prop) (held : Nat → Prop) : Driver → Driver → Prop
  | change {changes : List (Register × UInt32)}
      (hallowed : ∀ change ∈ changes, allowed (.change change.1 change.2)) (driver) :
      Use allowed held driver (driver.update (·.changeAll changes))
  | interrupt (driver) : Use allowed held driver driver.onInterrupt.2
  | record (event : Event) (hreport : event.IsReport) (driver) :
      Use allowed held driver (driver.update (·.record event))
  | abort {channel driver} (hmanaged : channel < driver.controller.managed) :
      Use allowed held driver (driver.update (·.abort channel))
  | take (channel driver) : Use allowed held driver (driver.update (·.takePending channel))
  | removeOwner (owner driver) : Use allowed held driver (driver.removeOwner owner).2
  | poll (future waker driver) :
      Use allowed held driver
        { driver with controller := (driver.controller.pollPeriod future waker).2 }
  | stopManager {world : World} (hworld : world.Causes allowed) (driver) :
      Use allowed held driver ((onController (Controller.stopManager world)).perform driver).2
  | submit {world : World} {channel} (hworld : world.Causes allowed) (hheld : held channel)
      (order driver) :
      Use allowed held driver
        ((onController (Controller.submit world channel order)).perform driver).2
  | start {world : World} {channel} (hworld : world.Causes allowed) (hheld : held channel)
      (driver) :
      Use allowed held driver ((onController (Controller.start world channel)).perform driver).2
  | stop {world : World} {channel} (hworld : world.Causes allowed) (hheld : held channel)
      (driver) :
      Use allowed held driver ((onController (Controller.stop world channel)).perform driver).2
  | register {channel} (hheld : held channel) (callback context owner driver) :
      Use allowed held driver ((register channel callback context owner).perform driver).2
  | unregister {channel} (hheld : held channel) (id driver) :
      Use allowed held driver ((unregister channel id).perform driver).2

/-- What a driver is asked for. -/
inductive Move (allowed : Disturbance → Prop) (held : Nat → Prop) : Driver → Driver → Prop
  | use {before after} (huse : Use allowed held before after) : Move allowed held before after
  | init (region busAddress config driver) :
      Move allowed held driver ((init region busAddress config).perform driver).2
  | allocate (index driver) : Move allowed held driver ((allocate index).perform driver).2
  | release (channel driver) : Move allowed held driver ((release channel).perform driver).2
  | deinit (driver) : Move allowed held driver (deinit.perform driver).2

variable {before after : Driver}

/-- Any number of requests while the controller is in use. -/
abbrev Uses (allowed : Disturbance → Prop) (held : Nat → Prop) : Driver → Driver → Prop :=
  Relation.ReflTransGen (Use allowed held)

/-- Any number of requests. -/
abbrev Moves (allowed : Disturbance → Prop) (held : Nat → Prop) : Driver → Driver → Prop :=
  Relation.ReflTransGen (Move allowed held)

/-- Deliveries are uses, one after the other. -/
theorem delivering_uses : Delivering (Uses allowed held) where
  refl _ := .refl
  trans := .trans
  record event hreport driver := .single (.record event hreport driver)
  abort hretries := .single (.abort hretries.managed)
  take channel driver := .single (.take channel driver)
  removeOwner owner driver := .single (.removeOwner owner driver)
  interrupt driver := .single (.interrupt driver)

theorem Uses.moves (huses : Uses allowed held before after) : Moves allowed held before after :=
  Relation.ReflTransGen.mono (fun _ _ => .use) _ _ huses

/-! ## Moves are steps -/

theorem Use.steps (huse : Use allowed held before after) : Steps before after := by
  cases huse with
  | change => exact Controller.Steps.aside (Controller.aside_changeAll ..)
  | interrupt => exact steps_onInterrupt before
  | record event hreport => exact steps_record event hreport.isAside before
  | abort => exact (Controller.threadSteps_abort _ _).steps
  | take channel => exact delivering_steps.take channel before
  | removeOwner owner => exact steps_removeOwner owner before
  | poll future waker => exact Controller.steps_pollPeriod future waker before.controller
  | stopManager =>
      exact (Controller.follows_stopThread _ .manager).steps before.controller
  | submit _ _ order => exact Controller.follows_submit _ _ order before.controller
  | start => exact (Controller.follows_start _ _).steps before.controller
  | stop => exact (Controller.follows_stop _ _).steps before.controller
  | register _ callback context owner => exact follows_register _ callback context owner before
  | unregister _ id => exact follows_unregister _ id before

theorem Move.steps (hmove : Move allowed held before after) : Steps before after := by
  cases hmove with
  | use huse => exact huse.steps
  | init region busAddress config => exact follows_init region busAddress config before
  | allocate index => exact follows_allocate index before
  | release channel => exact follows_release channel before
  | deinit => exact follows_deinit before

theorem Moves.steps (hmoves : Moves allowed held before after) : Steps before after := by
  induction hmoves with
  | refl => exact .refl before
  | tail _ hmove ih => exact ih.trans hmove.steps

/-! ## Uses assign registrations only -/

/-- Only registering and removing registrations assigns something. -/
theorem Use.cases (huse : Use allowed held before after) :
    (Controller.SameAssignment before.controller after.controller ∧
      after.references = before.references) ∨
    (∃ owner, after = (before.removeOwner owner).2) ∨
    (∃ channel callback context owner, held channel ∧
      after = ((Driver.register channel callback context owner).perform before).2) ∨
    ∃ channel id, after = ((Driver.unregister channel id).perform before).2 := by
  cases huse with
  | change =>
      exact .inl ⟨(Controller.aside_changeAll _ before.controller).sameAssignment, rfl⟩
  | interrupt => exact .inl ⟨Controller.sameAssignment_onInterrupt before.controller, rfl⟩
  | record => exact .inl ⟨⟨rfl, rfl⟩, rfl⟩
  | abort =>
      exact .inl ⟨(Controller.threadSteps_abort _ before.controller).sameAssignment, rfl⟩
  | take channel =>
      have htaken : Controller.SameAssignment before.controller
          (before.controller.updateNotifications channel Notifications.take) :=
        Controller.sameAssignment_updateNotifications (by exact fun _ => rfl) before.controller
      exact .inl ⟨⟨htaken.division, htaken.registrations⟩, rfl⟩
  | removeOwner owner => exact .inr (.inl ⟨owner, rfl⟩)
  | poll future waker =>
      exact .inl ⟨Controller.sameAssignment_pollPeriod future waker before.controller, rfl⟩
  | @stopManager world =>
      have hstop := Controller.sameAssignment_of_threadSteps
        (Controller.follows_stopThread world .manager) before.controller
      exact .inl ⟨hstop, rfl⟩
  | submit _ _ order =>
      exact .inl ⟨Controller.sameAssignment_submit _ _ order before.controller, rfl⟩
  | @start world channel =>
      have hstart := Controller.sameAssignment_of_threadSteps
        (Controller.follows_start world channel) before.controller
      exact .inl ⟨hstart, rfl⟩
  | @stop world channel =>
      have hstop := Controller.sameAssignment_of_threadSteps
        (Controller.follows_stop world channel) before.controller
      exact .inl ⟨hstop, rfl⟩
  | register hheld callback context owner =>
      exact .inr (.inr (.inl ⟨_, callback, context, owner, hheld, rfl⟩))
  | unregister _ id => exact .inr (.inr (.inr ⟨_, id, rfl⟩))

/-- A region is not divided anew while its controller is in use. -/
theorem Use.division (huse : Use allowed held before after) :
    after.controller.division = before.controller.division := by
  rcases huse.cases with ⟨hsame, -⟩ | ⟨owner, rfl⟩ | ⟨channel, callback, context, owner, -, rfl⟩ |
    ⟨channel, id, rfl⟩
  · exact hsame.division
  · rfl
  · cases hregister :
        (before.controller.notificationsOf channel).register callback context owner with
    | error error => rw [perform_register_of_error hregister]
    | ok registered =>
        rw [perform_register_of_ok hregister]
        rfl
  · cases hunregister : (before.controller.notificationsOf channel).unregister id with
    | error error => rw [perform_unregister_of_error hunregister]
    | ok removed =>
        rw [perform_unregister_of_ok hunregister]
        rfl

theorem Uses.division (huses : Uses allowed held before after) :
    after.controller.division = before.controller.division := by
  induction huses with
  | refl => rfl
  | tail _ huse ih => exact huse.division.trans ih

end Driver

end CyclicDma
