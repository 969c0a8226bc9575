import CyclicDma.Controller.Debug

/-! # What an operation leaves alone

Most of what happens at a controller concerns its registers and its history
only. `Keeps` says that the setup and the configuration stay as they are, and
that nothing is added to the history which counts periods or launches a channel.
`Aside` says that the notification states stay as they are, too.
-/

namespace CyclicDma

/-- The event neither counts periods nor launches a channel. -/
def Event.IsAside : Event → Prop
  | issue _ (.go ..) | acknowledge _ | take .. | discard .. => False
  | _ => True

/-- The event tells what a callback did, or who was called or woken. -/
def Event.IsReport : Event → Prop
  | call .. | interrupted _ | ownerRemoved _ | dispatched | wake _ => True
  | _ => False

theorem Event.IsReport.isAside {event : Event} (hreport : event.IsReport) : event.IsAside := by
  cases event with
  | call | interrupted | ownerRemoved | dispatched | wake => trivial
  | _ => exact hreport.elim

/-! ## Notification states -/

namespace Controller

section

variable (controller : Controller) {channel other : Nat} (update : Notifications → Notifications)

@[simp]
theorem managed_updateNotifications :
    (controller.updateNotifications channel update).managed = controller.managed :=
  List.length_modify ..

/-- Nothing is known of a channel that is not managed. -/
theorem notificationsOf_of_ge (hout : controller.managed ≤ channel) :
    controller.notificationsOf channel = {} := by
  rw [notificationsOf, List.getD_eq_getElem?_getD, List.getElem?_eq_none hout, Option.getD_none]

theorem notificationsOf_updateNotifications :
    (controller.updateNotifications channel update).notificationsOf other =
      if other = channel ∧ channel < controller.managed then
        update (controller.notificationsOf channel)
      else controller.notificationsOf other := by
  simp only [notificationsOf, updateNotifications, List.getD_eq_getElem?_getD]
  by_cases hsame : other = channel
  · subst hsame
    rw [List.getElem?_modify_eq]
    by_cases hmanaged : other < controller.managed
    · rw [if_pos ⟨rfl, hmanaged⟩, List.getElem?_eq_getElem hmanaged]
      rfl
    · rw [if_neg (fun hboth => hmanaged hboth.2), List.getElem?_eq_none (Nat.le_of_not_lt hmanaged)]
      rfl
  · rw [if_neg (fun hboth => hsame hboth.1), List.getElem?_modify_ne _ _ (Ne.symm hsame)]

variable {controller}

theorem notificationsOf_updateNotifications_self (hmanaged : channel < controller.managed) :
    (controller.updateNotifications channel update).notificationsOf channel =
      update (controller.notificationsOf channel) :=
  (notificationsOf_updateNotifications ..).trans (if_pos ⟨rfl, hmanaged⟩)

theorem notificationsOf_updateNotifications_of_ne (hne : other ≠ channel) :
    (controller.updateNotifications channel update).notificationsOf other =
      controller.notificationsOf other :=
  (notificationsOf_updateNotifications ..).trans (if_neg fun hboth => hne hboth.1)

end

/-! ## Frames -/

/-- The setup and the configuration are as before, and so is the number of
channels. What was added to the history neither counts periods nor launches a
channel. -/
structure Keeps (before after : Controller) : Prop where
  setup : after.setup = before.setup
  config : after.config = before.config
  managed : after.managed = before.managed
  history : ∃ events, after.history = events ++ before.history ∧ ∀ event ∈ events, event.IsAside

/-- Only registers, the clock and the history are not as before. -/
structure Aside (before after : Controller) : Prop extends Keeps before after where
  notifications : after.notifications = before.notifications

variable {before middle after controller : Controller}

theorem Keeps.refl (controller : Controller) : Keeps controller controller :=
  ⟨rfl, rfl, rfl, [], rfl, by simp⟩

theorem Keeps.trans (hfirst : Keeps before middle) (hsecond : Keeps middle after) :
    Keeps before after where
  setup := hsecond.setup.trans hfirst.setup
  config := hsecond.config.trans hfirst.config
  managed := hsecond.managed.trans hfirst.managed
  history := by
    obtain ⟨older, holder, hold⟩ := hfirst.history
    obtain ⟨newer, hnewer, hnew⟩ := hsecond.history
    refine ⟨newer ++ older, by rw [hnewer, holder, List.append_assoc], fun event hevent => ?_⟩
    rcases List.mem_append.mp hevent with hnewest | holdest
    · exact hnew event hnewest
    · exact hold event holdest

theorem Aside.refl (controller : Controller) : Aside controller controller :=
  ⟨.refl controller, rfl⟩

theorem Aside.trans (hfirst : Aside before middle) (hsecond : Aside middle after) :
    Aside before after :=
  ⟨hfirst.toKeeps.trans hsecond.toKeeps, hsecond.notifications.trans hfirst.notifications⟩

theorem Aside.notificationsOf (haside : Aside before after) (channel : Nat) :
    after.notificationsOf channel = before.notificationsOf channel := by
  rw [Controller.notificationsOf, Controller.notificationsOf, haside.notifications]

theorem keeps_updateNotifications (channel : Nat) (update : Notifications → Notifications)
    (controller : Controller) : Keeps controller (controller.updateNotifications channel update) :=
  ⟨rfl, rfl, managed_updateNotifications .., [], rfl, by simp⟩

theorem Keeps.foldl {α : Type} {step : Controller → α → Controller}
    (hstep : ∀ controller item, Keeps controller (step controller item)) (items : List α)
    (controller : Controller) : Keeps controller (items.foldl step controller) := by
  induction items generalizing controller with
  | nil => exact .refl controller
  | cons item items ih => exact (hstep controller item).trans (ih _)

theorem Aside.foldl {α : Type} {step : Controller → α → Controller}
    (hstep : ∀ controller item, Aside controller (step controller item)) (items : List α)
    (controller : Controller) : Aside controller (items.foldl step controller) := by
  induction items generalizing controller with
  | nil => exact .refl controller
  | cons item items ih => exact (hstep controller item).trans (ih _)

/-! ## Registers and messages -/

theorem aside_record {event : Event} (haside : event.IsAside) (controller : Controller) :
    Aside controller (controller.record event) :=
  ⟨⟨rfl, rfl, rfl, [event], rfl, by simpa using haside⟩, rfl⟩

theorem aside_logAt (verbosity : Verbosity) (message : LogMessage) (controller : Controller) :
    Aside controller (controller.logAt verbosity message) := by
  unfold logAt
  split
  · exact aside_record (show (Event.log message).IsAside from trivial) controller
  · exact .refl controller

theorem aside_log (message : LogMessage) (controller : Controller) :
    Aside controller (controller.log message) :=
  aside_logAt _ message controller

@[simp]
theorem registers_logAt (verbosity : Verbosity) (message : LogMessage)
    (controller : Controller) :
    (controller.logAt verbosity message).registers = controller.registers := by
  unfold logAt
  split <;> rfl

@[simp]
theorem registers_log (message : LogMessage) (controller : Controller) :
    (controller.log message).registers = controller.registers :=
  registers_logAt ..

theorem aside_write (register : Register) (value : UInt32) (controller : Controller) :
    Aside controller (controller.write register value) :=
  ⟨⟨rfl, rfl, rfl, [.write register value], rfl, by simp [Event.IsAside]⟩, rfl⟩

theorem aside_change (register : Register) (value : UInt32) (controller : Controller) :
    Aside controller (controller.change register value) :=
  ⟨⟨rfl, rfl, rfl, [.change register value], rfl, by simp [Event.IsAside]⟩, rfl⟩

theorem aside_changeAll (changes : List (Register × UInt32)) (controller : Controller) :
    Aside controller (controller.changeAll changes) := by
  apply Aside.foldl
  rintro controller ⟨register, value⟩
  exact aside_change register value controller

theorem aside_tick (controller : Controller) :
    Aside controller ({ controller with clock := controller.clock + 1 }.record .delay) :=
  ⟨⟨rfl, rfl, rfl, [.delay], rfl, by simp [Event.IsAside]⟩, rfl⟩

theorem aside_issue_kill (thread : ThreadId) (controller : Controller) :
    Aside controller (controller.issue thread .kill) := by
  have hissued : ∀ registers, Aside controller
      ({ controller with registers }.record (.issue thread .kill)) := fun registers =>
    ⟨⟨rfl, rfl, rfl, [.issue thread .kill], rfl, by simp [Event.IsAside]⟩, rfl⟩
  exact (hissued _).trans (aside_log _ _)

/-- A command that is handed over is written down, and changes registers apart
from that. -/
theorem issue_frame (thread : ThreadId) (command : Command) (controller : Controller) :
    (controller.issue thread command).setup = controller.setup ∧
      (controller.issue thread command).config = controller.config ∧
      (controller.issue thread command).notifications = controller.notifications ∧
      ∃ events, (controller.issue thread command).history =
          events ++ .issue thread command :: controller.history ∧
        ∀ event ∈ events, event.IsAside := by
  unfold issue
  dsimp only
  generalize (Event.issue thread command).writes.foldl _ _ = registers
  have haside := aside_log (.executed thread command)
    ({ controller with registers }.record (.issue thread command))
  exact ⟨haside.setup, haside.config, haside.notifications, haside.history⟩

theorem aside_unmaskEvent (channel : Nat) (controller : Controller) :
    Aside controller (controller.unmaskEvent channel) :=
  aside_write ..

theorem aside_maskEvent (channel : Nat) (controller : Controller) :
    Aside controller (controller.maskEvent channel) :=
  aside_write ..

theorem aside_silence (thread : ThreadId) (controller : Controller) :
    Aside controller (controller.silence thread) := by
  cases thread with
  | manager => exact .refl controller
  | channel channel =>
      unfold silence
      dsimp only
      split
      · exact (aside_write ..).trans (aside_maskEvent ..)
      · exact aside_maskEvent ..

end Controller

end CyclicDma
