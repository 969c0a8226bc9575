import CyclicDma.Proofs.Board.Lending

/-! # Places of channels

A controller that has a region gives each channel that can be used a place, which is
held or free. When a place becomes free, and when the region is handed over or back,
the notification state of the channel is cleared. While a place is free, no client
works on it.
-/

namespace CyclicDma

/-- The act is not one that only a client of the channel asks for. -/
def Act.IsForeign (channel : Nat) : Act → Prop
  | register other _ | unregister other _ | await other _ | note other => other ≠ channel
  | _ => True

theorem Act.IsDelivering.isForeign {act : Act} (hdelivers : act.IsDelivering) (channel : Nat) :
    act.IsForeign channel := by
  cases act with
  | register | unregister | await | note => exact hdelivers.elim
  | _ => trivial

namespace Driver

variable {driver : Driver} {channel : Nat}

/-! ## Clearing channels -/

theorem notificationsOf_clearChannel (other channel : Nat) (driver : Driver) :
    (driver.clearChannel other).controller.notificationsOf channel =
      if channel = other then (driver.controller.notificationsOf channel).clear
      else driver.controller.notificationsOf channel := by
  refine (Controller.notificationsOf_updateNotifications ..).trans ?_
  by_cases hsame : channel = other
  · subst hsame
    rw [if_pos rfl]
    split
    next => rfl
    next hout =>
      have hnone : driver.controller.notificationsOf channel = {} :=
        Controller.notificationsOf_of_ge _ (Nat.le_of_not_lt fun hmanaged => hout ⟨rfl, hmanaged⟩)
      rw [hnone]
      exact hnone
  · rw [if_neg fun hboth => hsame hboth.1, if_neg hsame]
    rfl

theorem notificationsOf_clearChannels (channels channel : Nat) (driver : Driver) :
    ((List.range channels).foldl clearChannel driver).controller.notificationsOf channel =
      if channel < channels then (driver.controller.notificationsOf channel).clear
      else driver.controller.notificationsOf channel := by
  induction channels with
  | zero => rfl
  | succ channels ih =>
      rw [List.range_succ, List.foldl_append, List.foldl_cons, List.foldl_nil,
        notificationsOf_clearChannel, ih]
      by_cases hsame : channel = channels
      · subst hsame
        rw [if_pos rfl, if_neg (Nat.lt_irrefl _), if_pos (Nat.lt_succ_self _)]
      · have hlt : channel < channels + 1 ↔ channel < channels := by omega
        rw [if_neg hsame]
        simp only [hlt]

theorem notificationsOf_released (other channel : Nat) (driver : Driver) :
    (driver.released other).controller.notificationsOf channel =
      if channel = other then (driver.controller.notificationsOf channel).clear
      else driver.controller.notificationsOf channel :=
  notificationsOf_clearChannel other channel driver

/-- All channels are cleared when the region is handed back. -/
theorem notificationsOf_closed (setup : Setup) (channel : Nat) (driver : Driver) :
    (driver.closed setup).controller.notificationsOf channel =
      (driver.controller.notificationsOf channel).clear := by
  refine (notificationsOf_clearChannels ..).trans ?_
  split
  next => rfl
  next hout =>
    have hnone : driver.controller.notificationsOf channel = {} :=
      Controller.notificationsOf_of_ge _ (Nat.le_of_not_lt hout)
    rw [hnone]
    exact hnone

/-- The channels that can be used are cleared when a region is handed over. -/
theorem notificationsOf_opened (region : Region) (busAddress : UInt32) (config : Config)
    (channel : Nat) (driver : Driver) :
    (driver.opened region busAddress config).controller.notificationsOf channel =
      if channel < usableChannels (Device.ofRegisters driver.controller.registers)
          driver.controller then (driver.controller.notificationsOf channel).clear
      else driver.controller.notificationsOf channel := by
  refine (congrArg (·.getD channel {}) (Controller.aside_log _ _).notifications).trans ?_
  exact notificationsOf_clearChannels ..

end Driver

namespace Board

variable {board before after : Board} {controller : Controller} {index channel : Nat}

/-! ## Places -/

/-- Whether a channel is held, if it can be used. -/
def place? (index channel : Nat) (board : Board) : Option Bool :=
  board.divisions[index]?.join.bind (·.held[channel]?)

theorem isHeld_eq_place? (index channel : Nat) (board : Board) :
    board.isHeld index channel = (board.place? index channel).getD false :=
  rfl

theorem place?_of_divisions (hsame : after.divisions = before.divisions) (index channel : Nat) :
    after.place? index channel = before.place? index channel := by
  rw [place?, hsame, place?]

/-- Another division at one controller leaves the places at the others. -/
theorem place?_of_set {division : Option Division} {other : Nat}
    (hset : after.divisions = before.divisions.set other division)
    (hbound : other < before.divisions.length) (index channel : Nat) :
    after.place? index channel =
      if index = other then division.bind (·.held[channel]?) else before.place? index channel := by
  rw [place?, place?, hset]
  split
  next hsame => rw [hsame, List.getElem?_set_self hbound, Option.join_some]
  next hne => rw [List.getElem?_set_ne (Ne.symm hne)]

/-- The request of one channel decides about the place of that channel only. -/
theorem place_setRequest {other : Nat} (hne : channel ≠ other) (request : Option Request)
    (controller : Controller) :
    (controller.setRequest other request).division.bind (·.held[channel]?) =
      controller.division.bind (·.held[channel]?) := by
  unfold Controller.division Controller.setRequest
  cases controller.setup with
  | none => rfl
  | some setup =>
      change ((setup.requests.set other request).map (·.isSome))[channel]? =
        (setup.requests.map (·.isSome))[channel]?
      rw [List.getElem?_map, List.getElem?_map, List.getElem?_set_ne hne.symm]

/-- Giving a request another value leaves the places of the other channels. -/
theorem place?_setRequest {other slot : Nat} {request : Option Request}
    (hfound : before.controllers[other]? = some controller)
    (hset : after.divisions =
      before.divisions.set other (controller.setRequest slot request).division)
    (hother : index = other → channel ≠ slot) :
    after.place? index channel = before.place? index channel := by
  obtain ⟨hbound, -⟩ := List.getElem?_eq_some_iff.mp (getElem?_divisions hfound)
  rw [place?_of_set hset hbound]
  split
  next hsame =>
    rw [place_setRequest (hother hsame), place?, hsame, getElem?_divisions hfound,
      Option.join_some]
  next => rfl

/-- A place that becomes free was cleared, and so was a place that comes or goes with
the region. -/
theorem Handover.clears (hhandover : Handover before after) (index channel : Nat) :
    after.place? index channel = before.place? index channel ∨
      after.isHeld index channel = true ∨
      after.stateOf index channel = (before.stateOf index channel).clear := by
  cases hhandover with
  | refuse => exact .inl rfl
  | abandon => exact .inl rfl
  | @allocate other controller setup slot name hfound hsetup hfree =>
      have hset : ((before.withDriver other ⟨controller.setRequest slot (some {}),
          before.references⟩).addHandle ⟨name, other, slot⟩).divisions =
          before.divisions.set other (controller.setRequest slot (some {})).division := by
        rw [divisions, (addHandle_frame _ _).1]
        exact divisions_withDriver ..
      by_cases hsame : index = other ∧ channel = slot
      · obtain ⟨rfl, rfl⟩ := hsame
        have husable : channel < setup.usable := (List.getElem?_eq_some_iff.mp hfree).1
        refine .inr (.inl ?_)
        rw [isHeld_setRequest (some {}) hfound hsetup husable hset, if_pos ⟨rfl, rfl⟩]
        rfl
      · exact .inl (place?_setRequest hfound hset fun hindex hchannel => hsame ⟨hindex, hchannel⟩)
  | @release controller name handle hhandle hfound =>
      by_cases hsame : index = handle.controller ∧ channel = handle.channel
      · obtain ⟨rfl, rfl⟩ := hsame
        refine .inr (.inr ?_)
        have hdropped : (before.dropFutures handle).controllers[handle.controller]? =
            some controller := hfound
        have hreleased := stateOf_withDriver_self hdropped
          (Driver.released handle.channel ⟨controller, before.references⟩) handle.channel
        rw [Driver.notificationsOf_released, if_pos rfl] at hreleased
        rw [stateOf_eq hfound]
        exact hreleased
      · exact .inl (place?_setRequest hfound (divisions_withDriver ..)
          fun hindex hchannel => hsame ⟨hindex, hchannel⟩)
  | @deinit other controller setup hfound =>
      by_cases hsame : index = other
      · subst hsame
        refine .inr (.inr ?_)
        have hclosed := stateOf_withDriver_self hfound
          (Driver.closed setup ⟨controller, before.references⟩) channel
        rw [Driver.notificationsOf_closed] at hclosed
        rw [stateOf_eq hfound]
        exact hclosed
      · refine .inl ?_
        obtain ⟨hbound, -⟩ := List.getElem?_eq_some_iff.mp (getElem?_divisions hfound)
        have hset := divisions_withDriver other
          (Driver.closed setup ⟨controller, before.references⟩) before
        refine (place?_of_set hset hbound index channel).trans (if_neg hsame)

theorem Opening.clears {other : Nat} {source : RegionSource} {busAddress : UInt32}
    {config : Config} {outcome : Except Refusal Answer × Board}
    (hopening : Opening other source busAddress config board outcome) (index channel : Nat) :
    outcome.2.place? index channel = board.place? index channel ∨
      outcome.2.stateOf index channel = (board.stateOf index channel).clear := by
  cases hopening with
  | missing => exact .inl rfl
  | waste htaken => exact .inl (place?_of_divisions (takes_of_takeRegion htaken).divisions ..)
  | @lose region taken controller error logged htaken hfound hlogs =>
      have htakes := takes_of_takeRegion htaken
      have hsame := divisions_withDriver_of_eq (htakes.found hfound)
        hlogs.aside.sameAssignment.division
      exact .inl (place?_of_divisions (hsame.trans htakes.divisions) ..)
  | @init region taken controller htaken hfound hclosed =>
      have htakes := takes_of_takeRegion htaken
      obtain ⟨hbound, -⟩ := List.getElem?_eq_some_iff.mp (getElem?_divisions hfound)
      have hset := divisions_withDriver other
        (Driver.opened region busAddress config ⟨controller, board.references⟩) taken
      rw [htakes.divisions] at hset
      have hplace := place?_of_set hset hbound index channel
      by_cases hsame : index = other
      · subst hsame
        have hstate := stateOf_withDriver_self (htakes.found hfound)
          (Driver.opened region busAddress config ⟨controller, board.references⟩) channel
        rw [Driver.notificationsOf_opened] at hstate
        by_cases husable : channel < Driver.usableChannels
            (Device.ofRegisters controller.registers) controller
        · refine .inr ?_
          rw [hstate, if_pos husable, stateOf_eq hfound]
        · refine .inl ?_
          rw [hplace, if_pos rfl, Controller.division, Driver.setup_opened, place?,
            getElem?_divisions hfound, Controller.division, hclosed]
          change (List.map _ (List.replicate _ none))[channel]? = none
          rw [List.map_replicate, List.getElem?_replicate, if_neg husable]
      · rw [if_neg hsame] at hplace
        exact .inl hplace

/-- A place that is free after an operation is as before, or was cleared. -/
theorem perform_clears (operation : Operation) (board : Board)
    (hfree : (board.perform operation).2.isHeld index channel = false) :
    (board.perform operation).2.place? index channel = board.place? index channel ∨
      (board.perform operation).2.stateOf index channel =
        (board.stateOf index channel).clear := by
  rcases perform_cases operation board with hused | hhanded | ⟨_, _, _, _, rfl⟩
  · exact .inl (place?_of_divisions hused.divisions ..)
  · rcases hhanded.clears index channel with hsame | hheld | hcleared
    · exact .inl hsame
    · rw [hheld] at hfree
      cases hfree
    · exact .inr hcleared
  · exact (opening_perform ..).clears index channel

/-! ## Free places -/

/-- No client works on a channel that is free. -/
theorem Reachable.isForeign {operation : Operation} {act : Act} (hboard : board.Reachable)
    (hfree : board.isHeld index channel = false) (hinvolves : operation.Involves board index act) :
    act.IsForeign channel := by
  have hheld : ∀ handle ∈ board.handles, handle.controller = index → handle.channel ≠ channel := by
    rintro handle hmem rfl rfl
    rw [hboard.exclusive.isHeld hmem] at hfree
    cases hfree
  obtain ⟨demand, hasks, hinvolves⟩ := hinvolves
  cases operation with
  | controller other operation =>
      obtain ⟨rfl, hasks⟩ := hasks
      cases operation with
      | change | allocate | interrupt | removeOwner =>
          cases hasks
          cases hinvolves
          trivial
      | dispatch =>
          cases hasks
          exact hinvolves.isForeign channel
      | init =>
          obtain ⟨region, rfl⟩ := hasks
          rcases hinvolves with rfl | ⟨_, rfl⟩ <;> trivial
      | deinit =>
          cases hasks
          rcases hinvolves with rfl | ⟨_, rfl⟩ <;> trivial
      | release =>
          obtain ⟨handle, -, -, rfl⟩ := hasks
          rcases hinvolves with rfl | rfl <;> trivial
      | stopManager =>
          obtain ⟨start, rfl⟩ := hasks
          rcases hinvolves with rfl | rfl <;> trivial
      | device | managerState | managerFault => exact hasks.elim
  | channel name operation =>
      obtain ⟨handle, hhandle, rfl, hasks⟩ := hasks
      have hother := hheld handle (handle?_eq_some hhandle).1 rfl
      cases operation with
      | submit | start | stop =>
          obtain ⟨start, rfl⟩ := hasks
          rcases hinvolves with rfl | rfl | rfl
          · trivial
          · trivial
          · exact hother
      | register =>
          cases hasks
          cases hinvolves
          exact hother
      | unregister =>
          obtain ⟨id, rfl⟩ := hasks
          cases hinvolves
          exact hother
      | state | inspect | nextPeriod | abandon => exact hasks.elim
  | future name operation =>
      obtain ⟨future, hfuture, rfl, hasks⟩ := hasks
      -- whoever waits for the channel holds it
      have hother : future.future.channel ≠ channel := by
        obtain ⟨lender, hlender, hcontroller, hchannel⟩ :=
          hboard.allLent future (List.mem_of_find?_eq_some hfuture)
        exact hchannel ▸ hheld lender hlender hcontroller
      cases operation with
      | poll =>
          cases hasks
          cases hinvolves
          exact hother
      | block =>
          rcases hasks with ⟨time, rfl⟩ | rfl | ⟨handled, rfl⟩ | rfl | rfl
          · cases hinvolves
            trivial
          · cases hinvolves
            trivial
          · cases hinvolves
            trivial
          · exact hinvolves.isForeign channel
          · cases hinvolves
            exact hother
      | drop => exact hasks.elim
  | references | memory => exact hasks.elim

end Board

end CyclicDma
