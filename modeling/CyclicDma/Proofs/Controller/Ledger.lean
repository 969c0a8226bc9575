import CyclicDma.Proofs.Controller.Entries

/-! # The ledger of a channel

The history says how many periods of a channel were acknowledged, how many were
taken for delivery and how many were discarded. No period is lost or delivered
twice: what was acknowledged and neither taken nor discarded is pending.
-/

namespace CyclicDma

/-- What becomes of periods. -/
inductive Account where
  | acknowledged
  | taken
  | discarded
deriving DecidableEq

/-- The periods of a channel that an event adds to an account. -/
def Event.periods (account : Account) (channel : Nat) : Event → Nat
  | acknowledge raised =>
      if account = .acknowledged ∧ Controller.hasChannel raised channel then 1 else 0
  | take other periods => if account = .taken ∧ other = channel then periods.toNat else 0
  | discard other periods => if account = .discarded ∧ other = channel then periods.toNat else 0
  | _ => 0

theorem Event.periods_of_isAside {event : Event} (haside : event.IsAside) (account : Account)
    (channel : Nat) : event.periods account channel = 0 := by
  cases event with
  | acknowledge | take | discard => exact haside.elim
  | _ => rfl

/-- A period is counted as long as the counter goes further. -/
theorem Notifications.toNat_addPending {notifications : Notifications}
    (hroom : notifications.pending.toNat + 1 < 2 ^ 32) :
    notifications.addPending.pending.toNat = notifications.pending.toNat + 1 := by
  have hsum : (notifications.pending + 1).toNat = notifications.pending.toNat + 1 := by
    rw [UInt32.toNat_add]
    exact Nat.mod_eq_of_lt hroom
  have hne : notifications.pending + 1 ≠ 0 := by
    intro hzero
    rw [hzero] at hsum
    exact absurd hsum (Nat.succ_ne_zero _).symm
  rw [addPending, if_neg hne, hsum]

/-- The pending count grows by one at most. -/
theorem Notifications.toNat_addPending_le (notifications : Notifications) :
    notifications.addPending.pending.toNat ≤ notifications.pending.toNat + 1 := by
  unfold addPending
  dsimp only
  split
  · exact Nat.le_succ _
  · rw [UInt32.toNat_add]
    exact Nat.mod_le _ _

namespace Controller

variable {before after controller start last : Controller} {event : Event} {channel : Nat}

/-! ## Accounts -/

/-- The periods of a channel that were ever added to an account. -/
def total (account : Account) (channel : Nat) (controller : Controller) : Nat :=
  (controller.history.map (Event.periods account channel)).sum

theorem total_of_history {events : List Event} (hhistory : after.history = events ++ before.history)
    (haside : ∀ event ∈ events, event.IsAside) (account : Account) (channel : Nat) :
    after.total account channel = before.total account channel := by
  have hnone : (events.map (Event.periods account channel)).sum = 0 := by
    rw [List.sum_eq_zero_iff_forall_eq_nat]
    intro periods hmem
    obtain ⟨event, hevent, rfl⟩ := List.mem_map.mp hmem
    exact Event.periods_of_isAside (haside event hevent) account channel
  rw [total, total, hhistory, List.map_append, List.sum_append, hnone, Nat.zero_add]

theorem Uneventful.total (huneventful : Uneventful before after) (account : Account)
    (channel : Nat) : after.total account channel = before.total account channel := by
  obtain ⟨events, hhistory, haside⟩ := huneventful.history
  exact total_of_history hhistory haside account channel

theorem Enters.total (henters : Enters event before after) (account : Account) (channel : Nat) :
    after.total account channel =
      before.total account channel + event.periods account channel := by
  obtain ⟨events, hhistory, haside⟩ := henters.history
  have hentered : after.total account channel = (before.record event).total account channel :=
    total_of_history hhistory haside account channel
  rw [hentered, Nat.add_comm]
  exact List.sum_cons

/-- Handling interrupts acknowledges one period for each channel whose event is
raised and enabled. -/
theorem total_onInterrupt (account : Account) (channel : Nat) (controller : Controller) :
    controller.onInterrupt.2.total account channel =
      controller.total account channel +
        if account = .acknowledged ∧ hasChannel controller.raised channel then 1 else 0 := by
  by_cases hraised : controller.raised = 0
  · rw [(uneventful_onInterrupt hraised).total, if_neg (by simp [hraised, hasChannel])]
    rfl
  · exact (Enters.acknowledge hraised).total account channel

/-! ## Balance -/

/-- The delivered periods are those that were taken, and the acknowledged ones
were taken, were discarded or are pending. -/
structure Balanced (channel : Nat) (controller : Controller) : Prop where
  delivered : (controller.notificationsOf channel).periods =
    .ofNat (controller.total .taken channel)
  acknowledged : controller.total .acknowledged channel < 2 ^ 32 →
    controller.total .acknowledged channel =
      controller.total .taken channel + (controller.notificationsOf channel).pending.toNat +
        controller.total .discarded channel

theorem Balanced.of_eq (hbalanced : before.Balanced channel)
    (htotal : ∀ account, after.total account channel = before.total account channel)
    (hpending : (after.notificationsOf channel).pending =
      (before.notificationsOf channel).pending)
    (hperiods : (after.notificationsOf channel).periods =
      (before.notificationsOf channel).periods) : after.Balanced channel where
  delivered := by
    rw [hperiods, htotal]
    exact hbalanced.delivered
  acknowledged := by
    simp only [htotal, hpending]
    exact hbalanced.acknowledged

theorem Balanced.acknowledge (hbalanced : before.Balanced channel)
    (hmanaged : channel < before.managed) : before.onInterrupt.2.Balanced channel := by
  obtain ⟨_, _, hmarks⟩ := sameButMarks_onInterrupt channel before
  have hperiods : (before.onInterrupt.2.notificationsOf channel).periods =
      (before.notificationsOf channel).periods := by
    rw [hmarks, counted]
    split <;> rfl
  constructor
  · rw [hperiods, hbalanced.delivered, total_onInterrupt, if_neg (by simp), Nat.add_zero]
  · intro hfew
    simp only [total_onInterrupt, reduceCtorEq, false_and, if_false, Nat.add_zero, true_and]
      at hfew ⊢
    -- so few were acknowledged that the pending count has room
    have hbefore := hbalanced.acknowledged (Nat.lt_of_le_of_lt (Nat.le_add_right ..) hfew)
    have hpending : (before.onInterrupt.2.notificationsOf channel).pending =
        (before.counted before.raised channel).pending := by
      rw [hmarks]
    rw [hpending, counted]
    by_cases hraised : hasChannel before.raised channel
    · rw [if_pos hraised] at hfew ⊢
      rw [if_pos ⟨hmanaged, hraised⟩, Notifications.toNat_addPending (by omega)]
      omega
    · rw [if_neg hraised, if_neg (fun hboth => hraised hboth.2)]
      exact hbefore

theorem Balanced.take (hbalanced : before.Balanced channel) (hmanaged : channel < before.managed)
    (other : Nat) : (before.takePending other).Balanced channel := by
  have htotal := (Enters.take other before).total
  have hafter : (before.takePending other).notificationsOf channel =
      if channel = other ∧ other < before.managed then (before.notificationsOf other).take
      else before.notificationsOf channel :=
    notificationsOf_updateNotifications ..
  by_cases hsame : channel = other
  · subst hsame
    rw [if_pos ⟨rfl, hmanaged⟩] at hafter
    constructor
    · rw [hafter, htotal]
      simp only [Event.periods, Notifications.take, and_self, if_true, UInt32.ofNat_add,
        UInt32.ofNat_toNat, hbalanced.delivered]
    · simp only [hafter, htotal, Event.periods, Notifications.take, reduceCtorEq, false_and,
        and_self, if_false, if_true, Nat.add_zero]
      exact hbalanced.acknowledged
  · rw [if_neg (fun hboth => hsame hboth.1)] at hafter
    refine hbalanced.of_eq (fun account => ?_) (by rw [hafter]) (by rw [hafter])
    rw [htotal, Event.periods, if_neg (fun hboth => hsame hboth.2.symm), Nat.add_zero]

theorem Balanced.discard (hbalanced : before.Balanced channel)
    (hmanaged : channel < before.managed) (other : Nat) :
    (before.discardPending other).Balanced channel := by
  have htotal := (Enters.discard other before).total
  have hafter : (before.discardPending other).notificationsOf channel =
      if channel = other ∧ other < before.managed then (before.notificationsOf other).clear
      else before.notificationsOf channel :=
    notificationsOf_updateNotifications ..
  by_cases hsame : channel = other
  · subst hsame
    rw [if_pos ⟨rfl, hmanaged⟩] at hafter
    constructor
    · rw [hafter, htotal, Event.periods, if_neg (by simp), Nat.add_zero]
      exact hbalanced.delivered
    · intro hfew
      simp only [hafter, htotal, Event.periods, Notifications.clear, reduceCtorEq, false_and,
        and_self, if_false, if_true, Nat.add_zero] at hfew ⊢
      rw [hbalanced.acknowledged hfew, UInt32.toNat_zero]
      omega
  · rw [if_neg (fun hboth => hsame hboth.1)] at hafter
    refine hbalanced.of_eq (fun account => ?_) (by rw [hafter]) (by rw [hafter])
    rw [htotal, Event.periods, if_neg (fun hboth => hsame hboth.2.symm), Nat.add_zero]

theorem Enters.managed (henters : Enters event before after) : after.managed = before.managed := by
  cases henters with
  | launch =>
      obtain ⟨-, -, hnotifications, -⟩ := issue_frame _ _ before
      exact congrArg List.length hnotifications
  | acknowledge =>
      obtain ⟨-, -, hmanaged, -⟩ := onInterrupt_frame before
      exact hmanaged
  | take | discard => exact managed_updateNotifications ..

theorem Balanced.enters (hbalanced : before.Balanced channel) (hmanaged : channel < before.managed)
    (henters : Enters event before after) : after.Balanced channel := by
  have htotal := henters.total
  cases henters with
  | launch =>
      obtain ⟨-, -, hnotifications, -⟩ := issue_frame _ _ before
      refine hbalanced.of_eq (fun account => htotal account channel) ?_ ?_ <;>
        rw [notificationsOf, hnotifications] <;> rfl
  | acknowledge => exact hbalanced.acknowledge hmanaged
  | take other => exact hbalanced.take hmanaged other
  | discard other => exact hbalanced.discard hmanaged other

/-- No step loses a period or delivers one twice. -/
theorem Balanced.step (hbalanced : before.Balanced channel) (hmanaged : channel < before.managed)
    (hstep : Step before after) : after.Balanced channel := by
  rcases hstep.enters with huneventful | ⟨event, henters⟩
  · exact hbalanced.of_eq (fun account => huneventful.total account channel)
      (huneventful.pending channel) (huneventful.periods channel)
  · exact hbalanced.enters hmanaged henters

theorem Step.managed (hstep : Step before after) : after.managed = before.managed := by
  rcases hstep.enters with huneventful | ⟨event, henters⟩
  · exact huneventful.managed
  · exact henters.managed

theorem Steps.managed (hsteps : Steps before after) : after.managed = before.managed := by
  induction hsteps with
  | refl => rfl
  | tail _ hstep ih => exact hstep.managed.trans ih

theorem Balanced.steps (hbalanced : before.Balanced channel) (hmanaged : channel < before.managed)
    (hsteps : Steps before after) : after.Balanced channel := by
  induction hsteps with
  | refl => exact hbalanced
  | tail hearlier hstep ih => exact ih.step (Steps.managed hearlier ▸ hmanaged) hstep

/-- What was pending before and what was acknowledged since covers what was taken and
discarded since and what is pending. -/
def Covers (channel : Nat) (before after : Controller) : Prop :=
  (after.notificationsOf channel).pending.toNat + after.total .taken channel +
      after.total .discarded channel + before.total .acknowledged channel ≤
    (before.notificationsOf channel).pending.toNat + before.total .taken channel +
      before.total .discarded channel + after.total .acknowledged channel

theorem covers_of_eq
    (htotal : ∀ account, after.total account channel = before.total account channel)
    (hpending : (after.notificationsOf channel).pending =
      (before.notificationsOf channel).pending) : Covers channel before after := by
  rw [Covers, hpending, htotal, htotal, htotal]

theorem covers_onInterrupt (channel : Nat) (controller : Controller) :
    Covers channel controller controller.onInterrupt.2 := by
  obtain ⟨_, _, hmarks⟩ := sameButMarks_onInterrupt channel controller
  rw [Covers, hmarks]
  simp only [total_onInterrupt, reduceCtorEq, false_and, if_false, true_and, Nat.add_zero]
  unfold counted
  by_cases hraised : hasChannel controller.raised channel
  · have hcounted := (controller.notificationsOf channel).toNat_addPending_le
    rw [if_pos hraised]
    split <;> omega
  · rw [if_neg hraised, if_neg fun hboth => hraised hboth.2]
    omega

/-- Where nothing is left pending, what was pending is all accounted for. -/
theorem pending_updateNotifications {update : Notifications → Notifications} {other : Nat}
    (hnone : (update (controller.notificationsOf other)).pending = 0) (channel : Nat) :
    ((controller.updateNotifications other update).notificationsOf channel).pending.toNat +
        (if other = channel then (controller.notificationsOf other).pending.toNat else 0) =
      (controller.notificationsOf channel).pending.toNat := by
  rw [notificationsOf_updateNotifications]
  by_cases hsame : channel = other
  · subst hsame
    rw [if_pos rfl]
    split
    next => rw [hnone, UInt32.toNat_zero, Nat.zero_add]
    next hout =>
      rw [notificationsOf_of_ge _ (Nat.le_of_not_lt fun hmanaged => hout ⟨rfl, hmanaged⟩)]
      rfl
  · rw [if_neg fun hboth => hsame hboth.1, if_neg (Ne.symm hsame), Nat.add_zero]

/-- Taking and discarding move what is pending to their accounts. -/
theorem covers_enters (henters : Enters event before after) (channel : Nat) :
    Covers channel before after := by
  have htotal := fun account => henters.total account channel
  cases henters with
  | launch =>
      obtain ⟨-, -, hnotifications, -⟩ := issue_frame _ _ before
      exact covers_of_eq htotal (by rw [notificationsOf, hnotifications]; rfl)
  | acknowledge => exact covers_onInterrupt channel before
  | take other =>
      have hmoved : ((before.takePending other).notificationsOf channel).pending.toNat +
          (if other = channel then (before.notificationsOf other).pending.toNat else 0) =
            (before.notificationsOf channel).pending.toNat :=
        pending_updateNotifications (by exact rfl) channel
      simp only [Covers, htotal, Event.periods, reduceCtorEq, false_and, if_false, true_and]
      omega
  | discard other =>
      have hmoved : ((before.discardPending other).notificationsOf channel).pending.toNat +
          (if other = channel then (before.notificationsOf other).pending.toNat else 0) =
            (before.notificationsOf channel).pending.toNat :=
        pending_updateNotifications (by exact rfl) channel
      simp only [Covers, htotal, Event.periods, reduceCtorEq, false_and, if_false, true_and]
      omega

theorem Step.covers (hstep : Step before after) (channel : Nat) : Covers channel before after := by
  rcases hstep.enters with huneventful | ⟨event, henters⟩
  · exact covers_of_eq (fun account => huneventful.total account channel)
      (huneventful.pending channel)
  · exact covers_enters henters channel

theorem Steps.covers (hsteps : Steps before after) (channel : Nat) :
    Covers channel before after := by
  induction hsteps with
  | refl => exact Nat.le_refl _
  | tail _ hstep ih =>
      have hlast := hstep.covers channel
      unfold Covers at ih hlast ⊢
      omega

/-- The periods that are taken, with those taken since a state before them, were
pending at that state or were acknowledged since. -/
theorem Steps.taken_le {periods : UInt32} {newer between : List Event} (hsteps : Steps start last)
    (hhistory : last.history = newer ++ .take channel periods :: (between ++ start.history)) :
    periods.toNat + (between.map (Event.periods .taken channel)).sum ≤
      (start.notificationsOf channel).pending.toNat +
        (between.map (Event.periods .acknowledged channel)).sum := by
  have hadded : start.history.length ≤ (between ++ start.history).length := by
    rw [List.length_append]
    exact Nat.le_add_left ..
  obtain ⟨moment, next, hmoment, holder, henters, -⟩ :=
    hsteps.exists_entry_since id hhistory hadded
  have htotal : ∀ account, moment.total account channel =
      (between.map (Event.periods account channel)).sum + start.total account channel := by
    intro account
    rw [total, holder, List.map_append, List.sum_append, total]
  have hcovers : Covers channel start moment := hmoment.covers channel
  rw [Covers, htotal, htotal, htotal] at hcovers
  cases henters with
  | take => omega

end Controller

end CyclicDma
