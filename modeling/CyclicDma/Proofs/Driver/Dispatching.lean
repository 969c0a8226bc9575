import CyclicDma.Proofs.Driver.Acts

/-! # What one dispatch delivers

As long as callbacks leave the driver that calls them alone, what a dispatch
delivers was settled when it began. It goes through the channels in ascending
order. For each period that is pending it calls the registrations of the channel
in their order, and then it wakes whoever waits. What a visit does to the state of
its channel concerns no other channel, so each is visited as it was found, and
nothing is left to deliver.
-/

namespace CyclicDma

namespace Notifications

/-- There is something to deliver: periods, or the news of a fault. -/
def Awaits (notifications : Notifications) : Prop :=
  notifications.pending ≠ 0 ∨ notifications.faulted = true

instance (notifications : Notifications) : Decidable notifications.Awaits :=
  inferInstanceAs (Decidable (_ ∨ _))

/-- The registrations are called once, in their order. -/
def callEvents (channel : Nat) (notifications : Notifications) : List Event :=
  notifications.registrations.map fun registration =>
    .call registration.callback channel registration.context

/-- The calls and wakes that a visit to a channel makes: all registrations for each
pending period, then whoever waits. -/
def owed (channel : Nat) (notifications : Notifications) : List Event :=
  (List.replicate notifications.pending.toNat (notifications.callEvents channel)).flatten ++
    if notifications.Awaits then notifications.waker.toList.map .wake else []

/-- The state of a channel after a visit. What was to be delivered is gone; the
registrations stay. -/
def VisitedAs (before after : Notifications) : Prop :=
  if before.Awaits then ∃ aborted, after = { before.take with aborted } else after = before

theorem VisitedAs.registrations {before after : Notifications}
    (hvisited : before.VisitedAs after) : after.registrations = before.registrations := by
  unfold VisitedAs at hvisited
  split at hvisited
  · obtain ⟨aborted, rfl⟩ := hvisited
    rfl
  · rw [hvisited]

/-- A visit leaves nothing to deliver. -/
theorem VisitedAs.not_awaits {before after : Notifications} (hvisited : before.VisitedAs after) :
    ¬ after.Awaits := by
  unfold VisitedAs at hvisited
  split at hvisited
  next =>
    obtain ⟨aborted, rfl⟩ := hvisited
    exact not_or.mpr ⟨not_not_intro rfl, nofun⟩
  next hsettled => rwa [hvisited]

/-- No registered callback works on the driver that calls it. -/
def LeavesAlone (notifications : Notifications) : Prop :=
  ∀ registration ∈ notifications.registrations, registration.callback.reactions = []

end Notifications

namespace Driver

variable {react : React} {channel : Nat} {driver : Driver}

/-! ## Calls -/

/-- More is written down. -/
def append (events : List Event) (driver : Driver) : Driver :=
  driver.update fun controller =>
    { controller with history := events.reverse ++ controller.history }

/-- Callbacks that leave the driver alone are called, and that is all. -/
theorem foldl_call {registrations : List Registration}
    (halone : ∀ registration ∈ registrations, registration.callback.reactions = [])
    (driver : Driver) :
    registrations.foldl (call react channel) driver =
      driver.append (registrations.map fun registration =>
        .call registration.callback channel registration.context) := by
  induction registrations generalizing driver with
  | nil => rfl
  | cons registration rest ih =>
      obtain ⟨hfirst, hrest⟩ := List.forall_mem_cons.mp halone
      have hcall : call react channel driver registration = driver.update (·.record
          (.call registration.callback channel registration.context)) := by
        rw [call, hfirst, List.foldl_nil]
      rw [List.foldl_cons, hcall, ih hrest]
      simp [append, update, Controller.record]

/-- Each pending period is a round of calls. -/
theorem foldl_calls {notifications : Notifications} (halone : notifications.LeavesAlone)
    (periods : Nat) (driver : Driver) :
    (calls periods notifications.registrations).foldl (call react channel) driver =
      driver.append (List.replicate periods (notifications.callEvents channel)).flatten := by
  have hcalls : ∀ registration ∈ calls periods notifications.registrations,
      registration.callback.reactions = [] := by
    intro registration hmem
    obtain ⟨registrations, hperiod, hregistration⟩ := List.mem_flatten.mp hmem
    rw [List.eq_of_mem_replicate hperiod] at hregistration
    exact halone registration hregistration
  rw [foldl_call hcalls, calls, List.map_flatten, List.map_replicate, Notifications.callEvents]

theorem deliveries_append {events : List Event} (hevents : ∀ event ∈ events, event.IsDelivery)
    (driver : Driver) :
    (driver.append events).controller.deliveries =
      events.reverse ++ driver.controller.deliveries := by
  have hall : events.reverse.filter (·.IsDelivery) = events.reverse :=
    List.filter_eq_self.mpr fun event hmem => by simpa using hevents event (List.mem_reverse.mp hmem)
  rw [append, Controller.deliveries, update, List.filter_append, hall, Controller.deliveries]

/-- Waking whoever waits is written down as well. -/
theorem wake_eq_append (waker : Option Waker) (driver : Driver) :
    driver.wake waker = driver.append (waker.toList.map .wake) := by
  cases waker <;> rfl

theorem append_append (first second : List Event) (driver : Driver) :
    (driver.append first).append second = driver.append (first ++ second) := by
  simp [append, update]

/-! ## Visits -/

theorem isDelivery_of_mem_owed {notifications : Notifications} {event : Event}
    (hevent : event ∈ notifications.owed channel) : event.IsDelivery := by
  rcases List.mem_append.mp hevent with hcall | hwake
  · obtain ⟨events, hperiod, hcall⟩ := List.mem_flatten.mp hcall
    rw [List.eq_of_mem_replicate hperiod] at hcall
    obtain ⟨registration, -, rfl⟩ := List.mem_map.mp hcall
    trivial
  · split at hwake
    · obtain ⟨waker, -, rfl⟩ := List.mem_map.mp hwake
      trivial
    · cases hwake

/-- What a visit to a channel does. -/
structure Visits (channel : Nat) (before after : Driver) : Prop where
  deliveries : after.controller.deliveries =
    ((before.controller.notificationsOf channel).owed channel).reverse ++
      before.controller.deliveries
  visited : (before.controller.notificationsOf channel).VisitedAs
    (after.controller.notificationsOf channel)
  others : ∀ other ≠ channel,
    after.controller.notificationsOf other = before.controller.notificationsOf other
  references : after.references = before.references

/-- Where nothing is due, nothing happens. -/
theorem visits_of_not_due (hdue : ¬ driver.Due channel) :
    Visits channel driver (visit react driver channel) := by
  have hnone : (driver.controller.notificationsOf channel).pending = 0 :=
    Decidable.not_not.mp (not_or.mp hdue).1
  have hsettled : ¬ (driver.controller.notificationsOf channel).Awaits := hdue
  rw [visit_of_not_due hdue]
  refine ⟨?_, ?_, fun _ _ => rfl, rfl⟩
  · rw [Notifications.owed, if_neg hsettled, hnone]
    rfl
  · rw [Notifications.VisitedAs, if_neg hsettled]

theorem references_taken (channel : Nat) (driver : Driver) :
    (driver.taken channel).references = driver.references := by
  rcases retryAbort_cases channel driver with hkept | ⟨-, htried⟩
  · rw [taken, hkept]
    rfl
  · rw [taken, htried]
    rfl

/-- Where something is due it is taken, and delivered in order. -/
theorem visits_of_due (hdue : driver.Due channel)
    (halone : (driver.controller.notificationsOf channel).LeavesAlone) :
    Visits channel driver (visit react driver channel) := by
  have hawaits : (driver.controller.notificationsOf channel).Awaits := hdue
  have hvisit : visit react driver channel = (driver.taken channel).append
      ((driver.controller.notificationsOf channel).owed channel) := by
    rw [visit_of_due hdue, foldl_calls halone, wake_eq_append, append_append,
      Notifications.owed, if_pos hawaits]
  rw [hvisit]
  refine ⟨?_, ?_, fun other hne => ?_, ?_⟩
  · rw [deliveries_append fun _ => isDelivery_of_mem_owed, (Does.take hdue).deliveries]
    rfl
  · rw [Notifications.VisitedAs, if_pos hawaits]
    exact taken_marks hdue.managed
  · exact notificationsOf_taken_of_ne hne driver
  · exact references_taken channel driver

theorem visits_visit (halone : (driver.controller.notificationsOf channel).LeavesAlone) :
    Visits channel driver (visit react driver channel) := by
  by_cases hdue : driver.Due channel
  · exact visits_of_due hdue halone
  · exact visits_of_not_due hdue

/-! ## Dispatches -/

/-- What visits to several channels do, one after the other. -/
structure VisitsAll (channels : List Nat) (before after : Driver) : Prop where
  deliveries : after.controller.deliveries =
    (channels.flatMap fun channel =>
      (before.controller.notificationsOf channel).owed channel).reverse ++
        before.controller.deliveries
  visited : ∀ channel ∈ channels, (before.controller.notificationsOf channel).VisitedAs
    (after.controller.notificationsOf channel)
  others : ∀ other ∉ channels,
    after.controller.notificationsOf other = before.controller.notificationsOf other
  references : after.references = before.references

/-- A channel is found by its visit as it was before the visits to other channels. -/
theorem visitsAll_foldl {channels : List Nat} (hnodup : channels.Nodup)
    (halone : ∀ channel, (driver.controller.notificationsOf channel).LeavesAlone) :
    VisitsAll channels driver (channels.foldl (visit react) driver) := by
  induction channels generalizing driver with
  | nil => exact ⟨rfl, nofun, fun _ _ => rfl, rfl⟩
  | cons channel rest ih =>
      obtain ⟨hnew, hrest⟩ := List.nodup_cons.mp hnodup
      have hvisit : Visits channel driver (visit react driver channel) := visits_visit (halone channel)
      have hkept : ∀ other, ((visit react driver channel).controller.notificationsOf
          other).LeavesAlone := by
        intro other
        by_cases hsame : other = channel
        · rw [hsame, Notifications.LeavesAlone, hvisit.visited.registrations]
          exact halone channel
        · rw [hvisit.others other hsame]
          exact halone other
      obtain ⟨hdeliveries, hvisited, hothers, hreferences⟩ := ih hrest hkept
      have hfound : ∀ other ∈ rest, (visit react driver channel).controller.notificationsOf other =
          driver.controller.notificationsOf other := fun other hother =>
        hvisit.others other fun hsame => hnew (hsame ▸ hother)
      have howed : (rest.flatMap fun other => ((visit react driver channel).controller.notificationsOf
          other).owed other) = rest.flatMap fun other =>
            (driver.controller.notificationsOf other).owed other :=
        List.flatMap_congr fun other hother => by rw [hfound other hother]
      rw [howed, hvisit.deliveries] at hdeliveries
      refine ⟨?_, ?_, fun other hother => ?_, hreferences.trans hvisit.references⟩
      · rw [List.foldl_cons, hdeliveries, List.flatMap_cons, List.reverse_append, List.append_assoc]
      · refine List.forall_mem_cons.mpr ⟨?_, fun other hother => ?_⟩
        · rw [List.foldl_cons, hothers channel hnew]
          exact hvisit.visited
        · rw [List.foldl_cons, ← hfound other hother]
          exact hvisited other hother
      · obtain ⟨hne, hlater⟩ := not_or.mp (List.mem_cons.not.mp hother)
        exact (hothers other hlater).trans (hvisit.others other hne)

/-- A dispatch for which nothing is due does nothing. -/
theorem dispatch_of_not_due (hnone : ∀ channel, ¬ driver.Due channel) :
    driver.dispatch = driver := by
  have hvisits : ∀ channels : List Nat,
      channels.foldl (visit (reaction 1)) driver = driver := by
    intro channels
    induction channels with
    | nil => rfl
    | cons channel rest ih => rw [List.foldl_cons, visit_of_not_due (hnone channel), ih]
  rw [dispatch, dispatchNested_eq]
  exact hvisits _

/-- What one dispatch delivers, and what it leaves. -/
structure Dispatches (before after : Driver) : Prop where
  /-- The calls and wakes, in their order. -/
  delivered : (after.eventsSince before).filter (·.IsDelivery) =
    (List.range before.controller.managed).flatMap fun channel =>
      (before.controller.notificationsOf channel).owed channel
  pending : ∀ channel, (after.controller.notificationsOf channel).pending = 0
  faulted : ∀ channel, (after.controller.notificationsOf channel).faulted = false
  /-- Whoever waited for a channel that was visited was taken, and the others wait on. -/
  waker : ∀ channel, (after.controller.notificationsOf channel).waker =
    if (before.controller.notificationsOf channel).Awaits then none
    else (before.controller.notificationsOf channel).waker
  registrations : ∀ channel, (after.controller.notificationsOf channel).registrations =
    (before.controller.notificationsOf channel).registrations
  references : after.references = before.references
  /-- Another dispatch does nothing, and so calls and wakes nobody. -/
  again : after.dispatch = after

/-- The calls and wakes since an earlier state are those that were added. -/
theorem filter_eventsSince {before after : Driver} (hsteps : Steps before after)
    {events : List Event}
    (hdeliveries : after.controller.deliveries = events.reverse ++ before.controller.deliveries) :
    (after.eventsSince before).filter (·.IsDelivery) = events := by
  obtain ⟨added, hhistory⟩ := Controller.Steps.history hsteps
  rw [Controller.deliveries, hhistory, List.filter_append, Controller.deliveries,
    List.append_left_inj] at hdeliveries
  rw [eventsSince, Controller.eventsSince_of_history hhistory, List.filter_reverse, hdeliveries,
    List.reverse_reverse]

/-- Channels that are not managed have nothing to deliver, so every channel is as after
a visit. -/
theorem visitedAs_dispatch
    (halone : ∀ channel, (driver.controller.notificationsOf channel).LeavesAlone) :
    VisitsAll (List.range driver.controller.managed) driver driver.dispatch ∧
      ∀ channel, (driver.controller.notificationsOf channel).VisitedAs
        (driver.dispatch.controller.notificationsOf channel) := by
  have hvisits : VisitsAll (List.range driver.controller.managed) driver driver.dispatch := by
    rw [dispatch, dispatchNested_eq]
    exact visitsAll_foldl List.nodup_range halone
  refine ⟨hvisits, fun channel => ?_⟩
  rcases Nat.lt_or_ge channel driver.controller.managed with hmanaged | hout
  · exact hvisits.visited channel (List.mem_range.mpr hmanaged)
  · have hnothing : ¬ (driver.controller.notificationsOf channel).Awaits := fun hawaits =>
      hout.not_gt (Due.managed hawaits)
    rw [Notifications.VisitedAs, if_neg hnothing]
    exact hvisits.others channel fun hmem => hout.not_gt (List.mem_range.mp hmem)

/-- As long as no callback works on the driver that calls it, one dispatch makes these
calls and wakes and no other ones: in ascending order of the channels, for each
pending period all registrations of the channel in their order, with its number and
their contexts, and then, if there was a period or a fault, whoever waits. No period
and no fault is left, whoever waited for a visited channel is gone, and registrations
and owners' counts are as before. Another dispatch right after it does nothing. -/
theorem dispatches_dispatch
    (halone : ∀ channel, (driver.controller.notificationsOf channel).LeavesAlone) :
    Dispatches driver driver.dispatch := by
  obtain ⟨hvisits, hvisited⟩ := visitedAs_dispatch halone
  have hsettled : ∀ channel, ¬ (driver.dispatch.controller.notificationsOf channel).Awaits :=
    fun channel => (hvisited channel).not_awaits
  refine ⟨?_, fun channel => ?_, fun channel => ?_, fun channel => ?_, fun channel => ?_,
    hvisits.references, dispatch_of_not_due hsettled⟩
  · exact filter_eventsSince (delivering_steps.dispatchNested 1 driver) hvisits.deliveries
  · exact Decidable.not_not.mp (not_or.mp (hsettled channel)).1
  · exact Bool.eq_false_iff.mpr (not_or.mp (hsettled channel)).2
  · have hchannel := hvisited channel
    unfold Notifications.VisitedAs at hchannel
    split at hchannel
    next hawaits =>
      obtain ⟨aborted, hafter⟩ := hchannel
      rw [hafter, if_pos hawaits]
      rfl
    next hawaits => rw [hchannel, if_neg hawaits]
  · exact (hvisited channel).registrations

/-- Two channels with periods and one with a fault only. Someone waits for each but the
first. -/
def busyDriver : Driver :=
  { controller :=
      { registers := .zero
        config := {}
        setup := none
        notifications := [
          { registrations := [⟨0, ⟨10, []⟩, 7, some 0⟩, ⟨1, ⟨11, []⟩, 8, none⟩], pending := 2 },
          { registrations := [⟨0, ⟨12, []⟩, 9, none⟩], faulted := true, waker := some (.task 1) },
          { registrations := [⟨4, ⟨10, []⟩, 5, none⟩], pending := 1, waker := some (.task 2) },
          { waker := some (.task 3) }]
        clock := 0
        history := [] }
    references := [1] }

theorem dispatches_dispatch_busy :
    (busyDriver.dispatch.eventsSince busyDriver).filter (·.IsDelivery) =
        [.call ⟨10, []⟩ 0 7, .call ⟨11, []⟩ 0 8, .call ⟨10, []⟩ 0 7, .call ⟨11, []⟩ 0 8,
          .wake (.task 1), .call ⟨10, []⟩ 2 5, .wake (.task 2)] ∧
      (busyDriver.dispatch.controller.notificationsOf 3).waker = some (.task 3) ∧
      busyDriver.dispatch.references = [1] ∧ busyDriver.dispatch.dispatch = busyDriver.dispatch := by
  have halone : ∀ channel, (busyDriver.controller.notificationsOf channel).LeavesAlone := by
    intro channel
    rcases Nat.lt_or_ge channel busyDriver.controller.managed with hmanaged | hout
    · have hall : ∀ channel < busyDriver.controller.managed,
          ∀ registration ∈ (busyDriver.controller.notificationsOf channel).registrations,
            registration.callback.reactions = [] := by
        decide
      exact hall channel hmanaged
    · rw [Controller.notificationsOf_of_ge _ hout]
      exact nofun
  obtain ⟨hdelivered, -, -, hwaker, -, hreferences, hagain⟩ := dispatches_dispatch halone
  exact ⟨hdelivered.trans (by decide), (hwaker 3).trans (by decide), hreferences, hagain⟩

end Driver

end CyclicDma
