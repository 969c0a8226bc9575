import CyclicDma.Controller.Interrupt
import CyclicDma.Proofs.Controller.Frame

/-! # What handling interrupts does

Handling interrupts leaves the setup alone. It acknowledges the events that are
raised and enabled, and counts one period for each managed channel among them.
Apart from that, only the marks of a fault change in the notification states.
-/

namespace CyclicDma

namespace Controller

/-! ## Frames -/

theorem abort_of_busy {controller : Controller} (hbusy : controller.isDebugBusy = true)
    (channel : Nat) : controller.abort channel = controller :=
  if_pos hbusy

theorem abort_of_idle {controller : Controller} (hidle : controller.isDebugBusy = false)
    (channel : Nat) :
    controller.abort channel =
      (((controller.issue (.channel channel) .kill).silence (.channel channel)).log
        (.aborted (.channel channel))).updateNotifications channel ({ · with aborted := true }) :=
  if_neg (by simp [hidle])

/-- An idle debug interface takes the kill, and the channel is marked. -/
theorem abort_eq (channel : Nat) (controller : Controller) :
    ∃ killed, Aside controller killed ∧
      (controller.abort channel = killed ∨
        controller.abort channel =
          killed.updateNotifications channel ({ · with aborted := true })) := by
  cases hbusy : controller.isDebugBusy with
  | true => exact ⟨controller, .refl controller, .inl (abort_of_busy hbusy channel)⟩
  | false =>
      refine ⟨_, ?_, .inr (abort_of_idle hbusy channel)⟩
      exact ((aside_issue_kill ..).trans (aside_silence ..)).trans (aside_log ..)

theorem keeps_abort (channel : Nat) (controller : Controller) :
    Keeps controller (controller.abort channel) := by
  obtain ⟨killed, hkilled, heq | heq⟩ := abort_eq channel controller
  · exact heq ▸ hkilled.toKeeps
  · exact heq ▸ hkilled.toKeeps.trans (keeps_updateNotifications ..)

theorem keeps_onFault (channel : Nat) (controller : Controller) :
    Keeps controller (controller.onFault channel) := by
  have hnoted := (keeps_updateNotifications channel ({ · with faulted := true }) controller).trans
    (aside_log (.channelFault channel ⟨controller.read (.faultType channel)⟩) _).toKeeps
  unfold onFault
  dsimp only
  split
  · exact hnoted
  · split
    · exact hnoted.trans (keeps_abort ..)
    · exact (hnoted.trans (keeps_abort ..)).trans (aside_log ..).toKeeps

theorem keeps_serveChannel (raised faults : UInt32) (controller : Controller) (channel : Nat) :
    Keeps controller (controller.serveChannel raised faults channel) := by
  have hcounted : Keeps controller
      (if hasChannel raised channel then
        controller.updateNotifications channel Notifications.addPending
      else controller) := by
    split
    · exact keeps_updateNotifications ..
    · exact .refl controller
  unfold serveChannel
  dsimp only
  split
  · exact hcounted.trans (keeps_onFault ..)
  · exact hcounted

/-- The events that are raised and enabled. -/
def raised (controller : Controller) : UInt32 :=
  controller.read .interruptEnable &&& controller.read .eventStatus

/-- What is acknowledged is a single event, or nothing where no event is raised. -/
def acknowledgement (raised : UInt32) : List Event :=
  if raised = 0 then [] else [.acknowledge raised]

/-- Handling interrupts leaves the setup alone, and acknowledges what was raised
and enabled. -/
theorem onInterrupt_frame (controller : Controller) :
    controller.onInterrupt.2.setup = controller.setup ∧
    controller.onInterrupt.2.config = controller.config ∧
    controller.onInterrupt.2.managed = controller.managed ∧
    ∃ events, controller.onInterrupt.2.history =
        events ++ acknowledgement controller.raised ++ controller.history ∧
      ∀ event ∈ events, event.IsAside := by
  unfold onInterrupt raised
  dsimp only
  generalize controller.read .interruptEnable &&& controller.read .eventStatus = raised
  -- the acknowledgement comes first, and the rest is noted in passing
  have hacknowledged : ∀ after : Controller,
      Keeps (if raised = 0 then controller else controller.acknowledge raised) after →
        after.setup = controller.setup ∧ after.config = controller.config ∧
        after.managed = controller.managed ∧
        ∃ events, after.history = events ++ acknowledgement raised ++ controller.history ∧
          ∀ event ∈ events, event.IsAside := by
    intro after hkeeps
    obtain ⟨hsetup, hconfig, hmanaged, events, hhistory, haside⟩ := hkeeps
    unfold acknowledgement
    split at hsetup
    next hnone =>
      rw [if_pos hnone] at hconfig hmanaged hhistory ⊢
      exact ⟨hsetup, hconfig, hmanaged, events, by simpa using hhistory, haside⟩
    next hsome =>
      rw [if_neg hsome] at hconfig hmanaged hhistory ⊢
      refine ⟨hsetup, hconfig, hmanaged, events, ?_, haside⟩
      rw [hhistory, List.append_assoc]
      rfl
  apply hacknowledged
  generalize (if raised = 0 then controller else controller.acknowledge raised) = acknowledged
  refine Keeps.trans ?_ (Keeps.foldl (keeps_serveChannel _ _) _ _)
  split
  · exact (aside_log ..).toKeeps
  · exact .refl _

end Controller

/-! ## Counting periods -/

/-- The marks of a fault are all that may differ. -/
def Notifications.SameButMarks (before after : Notifications) : Prop :=
  ∃ faulted aborted, after = { before with faulted, aborted }

namespace Notifications.SameButMarks

variable {before middle after : Notifications}

theorem refl (notifications : Notifications) : SameButMarks notifications notifications :=
  ⟨notifications.faulted, notifications.aborted, rfl⟩

theorem trans (hfirst : SameButMarks before middle) (hsecond : SameButMarks middle after) :
    SameButMarks before after := by
  obtain ⟨_, _, rfl⟩ := hfirst
  obtain ⟨faulted, aborted, rfl⟩ := hsecond
  exact ⟨faulted, aborted, rfl⟩

theorem addPending (hsame : SameButMarks before after) :
    SameButMarks before.addPending after.addPending := by
  obtain ⟨faulted, aborted, rfl⟩ := hsame
  exact ⟨faulted, aborted, rfl⟩

end Notifications.SameButMarks

namespace Controller

open Notifications (SameButMarks)

variable {controller : Controller}

theorem sameButMarks_updateNotifications {update : Notifications → Notifications}
    (hmarks : ∀ notifications, SameButMarks notifications (update notifications))
    (channel other : Nat) (controller : Controller) :
    SameButMarks (controller.notificationsOf other)
      ((controller.updateNotifications channel update).notificationsOf other) := by
  rw [notificationsOf_updateNotifications]
  split
  next hboth => exact hboth.1 ▸ hmarks _
  next => exact .refl _

theorem sameButMarks_abort (channel other : Nat) (controller : Controller) :
    SameButMarks (controller.notificationsOf other)
      ((controller.abort channel).notificationsOf other) := by
  obtain ⟨killed, hkilled, heq | heq⟩ := abort_eq channel controller
  · rw [heq, hkilled.notificationsOf]
    exact .refl _
  · rw [heq, ← hkilled.notificationsOf]
    exact sameButMarks_updateNotifications (fun notifications => ⟨_, true, rfl⟩) ..

theorem notificationsOf_abort_of_ne {channel other : Nat} (hne : channel ≠ other)
    (controller : Controller) :
    (controller.abort other).notificationsOf channel = controller.notificationsOf channel := by
  obtain ⟨killed, hkilled, heq | heq⟩ := abort_eq other controller
  · rw [heq, hkilled.notificationsOf]
  · rw [heq, notificationsOf_updateNotifications_of_ne _ hne, hkilled.notificationsOf]

/-- Whether the channel was killed is all that changes. -/
theorem notificationsOf_abort {channel : Nat} (hmanaged : channel < controller.managed) :
    ∃ aborted, (controller.abort channel).notificationsOf channel =
      { controller.notificationsOf channel with aborted } := by
  obtain ⟨killed, hkilled, heq | heq⟩ := abort_eq channel controller
  · exact ⟨_, by rw [heq, hkilled.notificationsOf]⟩
  · refine ⟨true, ?_⟩
    rw [heq, notificationsOf_updateNotifications_self _ (hkilled.managed.symm ▸ hmanaged),
      hkilled.notificationsOf]

theorem sameButMarks_onFault (channel other : Nat) (controller : Controller) :
    SameButMarks (controller.notificationsOf other)
      ((controller.onFault channel).notificationsOf other) := by
  have hnoted : ∀ message, SameButMarks (controller.notificationsOf other)
      (((controller.updateNotifications channel ({ · with faulted := true })).log
        message).notificationsOf other) := by
    intro message
    rw [(aside_log message _).notificationsOf]
    exact sameButMarks_updateNotifications (fun notifications => ⟨true, _, rfl⟩) ..
  unfold onFault
  dsimp only
  split
  · exact hnoted _
  · split
    · exact (hnoted _).trans (sameButMarks_abort ..)
    · rw [(aside_log _ _).notificationsOf]
      exact (hnoted _).trans (sameButMarks_abort ..)

/-- The notification state with one more period, if the channel signalled. -/
def counted (raised : UInt32) (channel : Nat) (controller : Controller) : Notifications :=
  if channel < controller.managed ∧ hasChannel raised channel then
    (controller.notificationsOf channel).addPending
  else controller.notificationsOf channel

theorem sameButMarks_serveChannel (raised faults : UInt32) (channel other : Nat)
    (controller : Controller) :
    SameButMarks
      (if other = channel then controller.counted raised channel
      else controller.notificationsOf other)
      ((controller.serveChannel raised faults channel).notificationsOf other) := by
  have hcounted : SameButMarks
      (if other = channel then controller.counted raised channel
      else controller.notificationsOf other)
      ((if hasChannel raised channel then
        controller.updateNotifications channel Notifications.addPending
      else controller).notificationsOf other) := by
    unfold counted
    by_cases hraised : hasChannel raised channel
    · rw [if_pos hraised, notificationsOf_updateNotifications]
      by_cases hsame : other = channel
      · subst hsame
        simp only [hraised, true_and, and_true, if_true]
        exact .refl _
      · simp only [hsame, false_and, if_false]
        exact .refl _
    · rw [if_neg hraised]
      simp only [hraised, Bool.false_eq_true, and_false, if_false]
      split
      next hsame => exact hsame ▸ .refl _
      next => exact .refl _
  unfold serveChannel
  dsimp only
  by_cases hfaulting : hasChannel faults channel
  · rw [if_pos hfaulting]
    exact hcounted.trans (sameButMarks_onFault ..)
  · rw [if_neg hfaulting]
    exact hcounted

/-- Each channel is served once, so a period is counted once. -/
theorem sameButMarks_serveChannels (raised faults : UInt32) (channels other : Nat)
    (controller : Controller) :
    SameButMarks
      (if other < channels then controller.counted raised other
      else controller.notificationsOf other)
      (((List.range channels).foldl (serveChannel raised faults) controller).notificationsOf
        other) := by
  -- a channel is served once, so the states of the later ones are still the first
  induction channels with
  | zero => exact .refl _
  | succ channels ih =>
      rw [List.range_succ, List.foldl_append, List.foldl_cons, List.foldl_nil]
      have hkeeps := Keeps.foldl (keeps_serveChannel raised faults) (List.range channels) controller
      generalize (List.range channels).foldl (serveChannel raised faults) controller = served
        at ih hkeeps ⊢
      have hserve := sameButMarks_serveChannel raised faults channels other served
      by_cases hsame : other = channels
      · subst hsame
        rw [if_neg (Nat.lt_irrefl other)] at ih
        rw [if_pos rfl] at hserve
        rw [if_pos (Nat.lt_succ_self other)]
        refine SameButMarks.trans ?_ hserve
        unfold counted
        rw [hkeeps.managed]
        split
        · exact ih.addPending
        · exact ih
      · rw [if_neg hsame] at hserve
        have hlt : other < channels + 1 ↔ other < channels := by omega
        simp only [hlt]
        exact ih.trans hserve

/-- Handling interrupts counts one period for each managed channel whose event
was raised and enabled, and does not change what else is known of a channel,
apart from the marks of a fault. -/
theorem sameButMarks_onInterrupt (channel : Nat) (controller : Controller) :
    SameButMarks
      (controller.counted controller.raised channel)
      (controller.onInterrupt.2.notificationsOf channel) := by
  unfold onInterrupt raised
  dsimp only
  generalize controller.read .interruptEnable &&& controller.read .eventStatus = raised
  have hserved : ∀ reported : Controller, reported.notifications = controller.notifications →
      ∀ faults, SameButMarks (controller.counted raised channel)
        (((List.range reported.managed).foldl (serveChannel raised faults)
          reported).notificationsOf channel) := by
    intro reported hreported faults
    have hserve := sameButMarks_serveChannels raised faults reported.managed channel reported
    have hcounted : reported.counted raised channel = controller.counted raised channel := by
      unfold counted managed notificationsOf
      rw [hreported]
    split at hserve
    next => exact hcounted ▸ hserve
    next hunmanaged =>
      have hnone : controller.counted raised channel = reported.notificationsOf channel := by
        rw [← hcounted, counted, if_neg (fun hboth => hunmanaged hboth.1)]
      exact hnone ▸ hserve
  apply hserved
  have hacknowledged :
      (if raised = 0 then controller else controller.acknowledge raised).notifications =
        controller.notifications := by
    split <;> rfl
  generalize (if raised = 0 then controller else controller.acknowledge raised) = acknowledged
    at hacknowledged ⊢
  split
  · rw [(aside_log _ _).notifications, hacknowledged]
  · exact hacknowledged

end Controller

end CyclicDma
