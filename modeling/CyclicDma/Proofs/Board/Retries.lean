import CyclicDma.Proofs.Board.Hearing
import CyclicDma.Proofs.Board.Visits
import CyclicDma.Proofs.Controller.Handling

/-! # Kills that are tried again

The kill of a faulting channel is deferred while the debug interface is busy. It is
tried again whenever interrupts are handled. A visit to the channel tries as well, but
it takes the mark of the fault away before: if the interface is still busy then, later
visits leave the channel alone until interrupts are handled again.
-/

namespace CyclicDma

/-! ## What acts do to the marks of a fault -/

namespace Driver

variable {act : Act} {channel : Nat} {before after : Notifications} {driver : Driver}

theorem Alters.aborted (halters : Alters channel act before after) (hinterrupt : act ≠ .interrupt)
    (htake : act ≠ .take channel) (hlive : before.aborted = false) : after.aborted = false := by
  cases halters with
  | keep | removeOwner | await => exact hlive
  | interrupt => exact absurd rfl hinterrupt
  | take => exact absurd rfl htake
  | note | clear => rfl
  | register hregister =>
      obtain rfl := Notifications.register_eq_ok hregister
      exact hlive
  | unregister hunregister =>
      obtain ⟨-, rfl⟩ := Notifications.unregister_eq_ok hunregister
      exact hlive

theorem Alters.faulted (halters : Alters channel act before after) (hinterrupt : act ≠ .interrupt)
    (htake : act ≠ .take channel) (hclear : act ≠ .clear channel) :
    after.faulted = before.faulted := by
  cases halters with
  | keep | removeOwner | await | note => rfl
  | interrupt => exact absurd rfl hinterrupt
  | take => exact absurd rfl htake
  | clear => exact absurd rfl hclear
  | register hregister =>
      obtain rfl := Notifications.register_eq_ok hregister
      rfl
  | unregister hunregister =>
      obtain ⟨-, rfl⟩ := Notifications.unregister_eq_ok hunregister
      rfl

/-- Only handling interrupts marks a fault. -/
theorem Alters.sound (halters : Alters channel act before after) (hinterrupt : act ≠ .interrupt)
    (hsound : before.faulted = false) : after.faulted = false := by
  by_cases htake : act = .take channel
  · subst htake
    cases halters with
    | keep => exact hsound
    | take => rfl
  · by_cases hclear : act = .clear channel
    · subst hclear
      cases halters with
      | keep => exact hsound
      | clear => rfl
    · exact (halters.faulted hinterrupt htake hclear).trans hsound

/-! ## Visits -/

/-- Taking the periods hands no command over. -/
theorem kills_takePending (other channel : Nat) (controller : Controller) :
    (controller.takePending other).kills channel = controller.kills channel :=
  List.count_cons_of_ne (by exact nofun)

theorem retryAbort_of_unmarked
    (hsound : (driver.controller.notificationsOf channel).faulted = false) :
    driver.retryAbort channel = driver :=
  retryAbort_of_not_retries fun hretries =>
    Bool.false_ne_true (hsound.symm.trans hretries.marked)

/-- A visit kills a channel whose fault is marked. -/
theorem kills_taken (hmarked : (driver.controller.notificationsOf channel).faulted = true)
    (hlive : (driver.controller.notificationsOf channel).aborted = false)
    (hfault : Controller.hasChannel (driver.controller.read .channelFaultStatus) channel = true)
    (hidle : driver.controller.isDebugBusy = false) (hmanaged : channel < driver.controller.managed)
    (hchannel : channel < 32) :
    Controller.Kills channel driver.controller (driver.taken channel).controller := by
  have hkills := Controller.kills_abort hidle hmanaged hchannel
  have htried := retryAbort_of_retries ⟨hmarked, hlive, hfault⟩
  have hstate := notificationsOf_taken hmanaged
  rw [htried] at hstate
  refine ⟨?_, ?_, ?_⟩
  · rw [taken, htried]
    exact (kills_takePending ..).trans hkills.issued
  · rw [taken, htried]
    exact hkills.masked
  · rw [hstate]
    exact hkills.aborted

/-- A visit that finds the debug interface busy kills nothing, and takes the mark of the
fault away. -/
theorem taken_of_busy (hbusy : driver.controller.isDebugBusy = true)
    (hmanaged : channel < driver.controller.managed) :
    ((driver.taken channel).controller.notificationsOf channel) =
      (driver.controller.notificationsOf channel).take := by
  rw [notificationsOf_taken hmanaged, retryAbort_of_busy hbusy]

/-- A visit does not kill a channel whose fault is not marked. -/
theorem kills_taken_of_unmarked
    (hsound : (driver.controller.notificationsOf channel).faulted = false) :
    (driver.taken channel).controller.kills channel = driver.controller.kills channel := by
  rw [taken, retryAbort_of_unmarked hsound]
  exact kills_takePending ..

end Driver

/-! ## Boards -/

namespace Board

/-- The debug interface of a controller is busy. -/
def Busy (index : Nat) (board : Board) : Prop :=
  ∃ controller, board.controllers[index]? = some controller ∧ controller.isDebugBusy = true

/-- A channel is among the faulting ones. -/
def Faulting (index channel : Nat) (board : Board) : Prop :=
  ∃ controller, board.controllers[index]? = some controller ∧
    Controller.hasChannel (controller.read .channelFaultStatus) channel = true

/-- What becomes of a controller. -/
def Relates (index : Nat) (relation : Controller → Controller → Prop) (before after : Board) :
    Prop :=
  ∃ controller later, before.controllers[index]? = some controller ∧
    after.controllers[index]? = some later ∧ relation controller later

variable {board : Board} {controller : Controller} {index channel : Nat}

theorem Busy.busy (hbusy : board.Busy index) (hfound : board.controllers[index]? = some controller) :
    controller.isDebugBusy = true := by
  obtain ⟨_, hsame, hbusy⟩ := hbusy
  cases hfound.symm.trans hsame
  exact hbusy

theorem idle_of_not_busy (hidle : ¬ board.Busy index)
    (hfound : board.controllers[index]? = some controller) : controller.isDebugBusy = false :=
  Bool.eq_false_of_not_eq_true fun hbusy => hidle ⟨controller, hfound, hbusy⟩

theorem Faulting.fault (hfaulting : board.Faulting index channel)
    (hfound : board.controllers[index]? = some controller) :
    Controller.hasChannel (controller.read .channelFaultStatus) channel = true := by
  obtain ⟨_, hsame, hfault⟩ := hfaulting
  cases hfound.symm.trans hsame
  exact hfault

theorem Reachable.managedAt_le (hboard : board.Reachable) (index : Nat) :
    board.managedAt index ≤ 32 := by
  cases hfound : board.controllers[index]? with
  | none =>
      rw [managedAt, List.getD_eq_getElem?_getD, List.getElem?_map, hfound]
      exact Nat.zero_le _
  | some controller =>
      rw [managedAt_eq hfound]
      exact hboard.managed_le controller (List.mem_of_getElem? hfound)

end Board

namespace Moment

variable {allowed : Moment → Nat → Act → Prop} {before after moment later next : Moment}
variable {act : Act} {index channel : Nat}

/-- The channel is managed by the driver of the controller. -/
structure Manages (index channel : Nat) (moment : Moment) : Prop where
  managed : channel < moment.board.managedAt index
  few : moment.board.managedAt index ≤ 32

theorem Manages.unfolds (hmanages : before.Manages index channel)
    (hunfolds : Unfolds allowed before after) : after.Manages index channel := by
  obtain ⟨hmanaged, hfew⟩ := hmanages
  rw [← hunfolds.managedAt] at hmanaged hfew
  exact ⟨hmanaged, hfew⟩

/-! ## Handling interrupts -/

section

variable (hmanages : before.Manages index channel)
variable (hlive : (before.board.stateOf index channel).aborted = false)

include hmanages hlive

/-- The controller that handles interrupts. -/
theorem Does.handles (hdoes : Does index .interrupt before after) :
    ∃ controller, before.board.controllers[index]? = some controller ∧
      after.board.controllers[index]? = some controller.onInterrupt.2 ∧
      channel < controller.managed ∧ controller.managed ≤ 32 ∧
      (controller.notificationsOf channel).aborted = false := by
  obtain ⟨controller, hfound, hafter⟩ := hdoes.found_interrupt
  obtain ⟨hmanaged, hfew⟩ := hmanages
  rw [Board.managedAt_eq hfound] at hmanaged hfew
  rw [Board.stateOf_eq hfound] at hlive
  exact ⟨controller, hfound, hafter, hmanaged, hfew, hlive⟩

theorem Does.kills_interrupt (hdoes : Does index .interrupt before after)
    (hfaulting : before.board.Faulting index channel) (hidle : ¬ before.board.Busy index) :
    before.board.Relates index (Controller.Kills channel) after.board := by
  obtain ⟨controller, hfound, hafter, hmanaged, hfew, hlive⟩ := hdoes.handles hmanages hlive
  exact ⟨controller, _, hfound, hafter,
    Controller.kills_onInterrupt hmanaged hfew hlive (hfaulting.fault hfound)
      (Board.idle_of_not_busy hidle hfound)⟩

theorem Does.defers_interrupt (hdoes : Does index .interrupt before after)
    (hfaulting : before.board.Faulting index channel) (hbusy : before.board.Busy index) :
    before.board.Relates index (Controller.Defers channel) after.board := by
  obtain ⟨controller, hfound, hafter, hmanaged, hfew, hlive⟩ := hdoes.handles hmanages hlive
  exact ⟨controller, _, hfound, hafter,
    Controller.defers_onInterrupt hmanaged hfew hlive (hfaulting.fault hfound)
      (hbusy.busy hfound)⟩

/-- A busy debug interface leaves the channel unkilled, and its fault marked. -/
theorem Does.marks_interrupt (hdoes : Does index .interrupt before after)
    (hbusy : before.board.Busy index) :
    (after.board.stateOf index channel).aborted = false ∧
      ((before.board.stateOf index channel).faulted = true →
        (after.board.stateOf index channel).faulted = true) := by
  obtain ⟨controller, hfound, hafter, hmanaged, hfew, hlive⟩ := hdoes.handles hmanages hlive
  rw [Board.stateOf_eq hfound, Board.stateOf_eq hafter]
  exact Controller.marks_onInterrupt_of_busy hmanaged hfew hlive (hbusy.busy hfound)

end

/-! ## Visits -/

theorem Does.kills_take (hdoes : Does index (.take channel) before after)
    (hmanages : before.Manages index channel)
    (hmarked : (before.board.stateOf index channel).faulted = true)
    (hlive : (before.board.stateOf index channel).aborted = false)
    (hfaulting : before.board.Faulting index channel) (hidle : ¬ before.board.Busy index) :
    before.board.Relates index (Controller.Kills channel) after.board := by
  obtain ⟨driver, hfound, hdue, hafter⟩ := hdoes.found_take
  have hchannel := Nat.lt_of_lt_of_le hmanages.managed hmanages.few
  rw [Board.stateOf_eq hfound] at hmarked hlive
  exact ⟨_, _, hfound, hafter, Driver.kills_taken hmarked hlive (hfaulting.fault hfound)
    (Board.idle_of_not_busy hidle hfound) hdue.managed hchannel⟩

theorem Does.take_of_busy (hdoes : Does index (.take channel) before after)
    (hbusy : before.board.Busy index) :
    after.board.stateOf index channel = (before.board.stateOf index channel).take := by
  obtain ⟨driver, hfound, hdue, hafter⟩ := hdoes.found_take
  rw [Board.stateOf_eq hfound, Board.stateOf_eq hafter]
  exact Driver.taken_of_busy (hbusy.busy hfound) hdue.managed

theorem Does.spares_take (hdoes : Does index (.take channel) before after)
    (hsound : (before.board.stateOf index channel).faulted = false) :
    before.board.Relates index (fun before after => after.kills channel = before.kills channel)
      after.board := by
  obtain ⟨driver, hfound, -, hafter⟩ := hdoes.found_take
  rw [Board.stateOf_eq hfound] at hsound
  exact ⟨_, _, hfound, hafter, Driver.kills_taken_of_unmarked hsound⟩

/-- A visit does not pass by a channel whose fault is marked. -/
theorem Does.unmarked_of_pass (hdoes : Does index (.pass channel) before after) :
    (before.board.stateOf index channel).faulted = false := by
  cases hdoes with
  | act hfound hdriver =>
      cases hdriver with
      | pass hnone =>
          rw [Board.stateOf_eq hfound]
          exact Bool.eq_false_of_not_eq_true fun hmarked => hnone (.inr hmarked)

/-! ## Runs -/

/-- While the debug interface is found busy, the channel is not killed. -/
theorem Unfolds.live (hunfolds : Unfolds allowed moment later)
    (hallowed : ∀ moment act, allowed moment index act →
      act = .interrupt ∨ act = .take channel → moment.board.Busy index)
    (hmanages : moment.Manages index channel)
    (hlive : (moment.board.stateOf index channel).aborted = false) :
    (later.board.stateOf index channel).aborted = false := by
  induction hunfolds with
  | refl => exact hlive
  | tail hunfolds hnext ih =>
      rcases hnext.alters index channel with hsame | ⟨act, hact, hdoes, halters⟩
      · rw [hsame]
        exact ih
      · by_cases hinterrupt : act = .interrupt
        · subst hinterrupt
          exact (hdoes.marks_interrupt (hmanages.unfolds hunfolds) ih
            (hallowed _ _ hact (.inl rfl))).1
        · by_cases htake : act = .take channel
          · subst htake
            rw [hdoes.take_of_busy (hallowed _ _ hact (.inr rfl))]
            exact ih
          · exact halters.aborted hinterrupt htake ih

/-- The mark of a fault stays until a visit takes it. -/
theorem Unfolds.marked (hunfolds : Unfolds allowed moment later)
    (hallowed : ∀ moment act, allowed moment index act →
      act ≠ .take channel ∧ act ≠ .clear channel ∧ (act = .interrupt → moment.board.Busy index))
    (hmanages : moment.Manages index channel)
    (hlive : (moment.board.stateOf index channel).aborted = false)
    (hmarked : (moment.board.stateOf index channel).faulted = true) :
    (later.board.stateOf index channel).aborted = false ∧
      (later.board.stateOf index channel).faulted = true := by
  induction hunfolds with
  | refl => exact ⟨hlive, hmarked⟩
  | tail hunfolds hnext ih =>
      obtain ⟨hlive, hmarked⟩ := ih
      rcases hnext.alters index channel with hsame | ⟨act, hact, hdoes, halters⟩
      · rw [hsame]
        exact ⟨hlive, hmarked⟩
      · obtain ⟨htake, hclear, hbusy⟩ := hallowed _ _ hact
        by_cases hinterrupt : act = .interrupt
        · subst hinterrupt
          obtain ⟨hstill, hkept⟩ :=
            hdoes.marks_interrupt (hmanages.unfolds hunfolds) hlive (hbusy rfl)
          exact ⟨hstill, hkept hmarked⟩
        · exact ⟨halters.aborted hinterrupt htake hlive,
            (halters.faulted hinterrupt htake hclear).trans hmarked⟩

/-- No fault is marked unless interrupts are handled. -/
theorem Unfolds.sound (hunfolds : Unfolds allowed moment later)
    (hallowed : ∀ moment act, allowed moment index act → act ≠ .interrupt)
    (hsound : (moment.board.stateOf index channel).faulted = false) :
    (later.board.stateOf index channel).faulted = false := by
  induction hunfolds with
  | refl => exact hsound
  | tail _ hnext ih =>
      rcases hnext.alters index channel with hsame | ⟨act, hact, -, halters⟩
      · rw [hsame]
        exact ih
      · exact halters.sound (hallowed _ _ hact) ih

end Moment

namespace Board

open Moment (Leads Unfolds Does)

variable {board : Board}

/-! ## Deferred kills -/

/-- Whatever is done with a board: when the kill of a faulting channel is deferred, it
is handed over by the first handling of interrupts that finds the debug interface idle,
however often it was found busy in between. The first visit to the channel hands it
over too, if it finds the interface idle. After a visit that finds it busy, later visits
hand nothing over until interrupts are handled again. -/
theorem deferred_kill_retried (hboard : board.Reachable) :
    board.IsPlayed ∧
    (∀ index channel moment deferred, Leads ⟨board, [], 0⟩ moment →
      Does index .interrupt moment deferred → channel < moment.board.managedAt index →
      moment.board.Faulting index channel → moment.board.Busy index →
      (moment.board.stateOf index channel).aborted = false →
      moment.board.Relates index (Controller.Defers channel) deferred.board ∧
      (∀ later next,
        Unfolds (fun moment other act => other = index →
          act = .interrupt ∨ act = .take channel → moment.board.Busy index) deferred later →
        later.board.Faulting index channel → ¬ later.board.Busy index →
        Does index .interrupt later next →
        later.board.Relates index (Controller.Kills channel) next.board) ∧
      ∀ later,
        Unfolds (fun moment other act => other = index →
          act ≠ .take channel ∧ act ≠ .clear channel ∧
            (act = .interrupt → moment.board.Busy index)) deferred later →
        later.board.Faulting index channel → ¬ later.board.Busy index →
        (∀ next, ¬ Does index (.pass channel) later next) ∧
        ∀ next, Does index (.take channel) later next →
          later.board.Relates index (Controller.Kills channel) next.board) ∧
    ∀ index channel moment visited later next, moment.board.Busy index →
      Does index (.take channel) moment visited →
      Unfolds (fun _ other act => other = index → act ≠ .interrupt) visited later →
      Does index (.take channel) later next →
      later.board.Relates index
        (fun before after => after.kills channel = before.kills channel) next.board := by
  refine ⟨hboard.isPlayed, ?_, ?_⟩
  · intro index channel moment deferred hleads hinterrupts hmanaged hfaulting hbusy hlive
    have hmanages : moment.Manages index channel := by
      refine ⟨hmanaged, ?_⟩
      rw [hleads.managedAt]
      exact hboard.managedAt_le index
    have hdefers := hinterrupts.defers_interrupt hmanages hlive hfaulting hbusy
    have hstays : deferred.Manages index channel :=
      hmanages.unfolds (Relation.ReflTransGen.single (.act trivial hinterrupts) : Leads _ _)
    obtain ⟨_, controller, -, hfound, hmarks⟩ := id hdefers
    have hmarked : (deferred.board.stateOf index channel).faulted = true := by
      rw [stateOf_eq hfound, hmarks.faulted]
    have hstill : (deferred.board.stateOf index channel).aborted = false := by
      rw [stateOf_eq hfound, hmarks.aborted]
    refine ⟨hdefers, ?_, ?_⟩
    · intro later next hunfolds hfault hidle hretries
      exact hretries.kills_interrupt (hstays.unfolds hunfolds)
        (hunfolds.live (fun _ _ hact => hact rfl) hstays hstill) hfault hidle
    · intro later hunfolds hfault hidle
      obtain ⟨hlive, hmarked⟩ :=
        hunfolds.marked (fun _ _ hact => hact rfl) hstays hstill hmarked
      refine ⟨fun next hpasses => ?_, fun next htakes => ?_⟩
      · rw [hpasses.unmarked_of_pass] at hmarked
        cases hmarked
      · exact htakes.kills_take (hstays.unfolds hunfolds) hmarked hlive hfault hidle
  · intro index channel moment visited later next hbusy hvisits hunfolds htakes
    refine htakes.spares_take (hunfolds.sound (fun _ _ hact => hact rfl) ?_)
    rw [hvisits.take_of_busy hbusy]
    rfl

/-- The ring faults while the debug interface is busy. -/
def faultingOperations : List Operation :=
  ringOperations ++
    [.controller 0 (.change [(.status 0, 15), (.channelFaultStatus, 1), (.debugStatus, 1)])]

/-- The kill is handed over by the first visit, which finds the debug interface idle. -/
theorem deferred_kill_retried_ring :
    ∃ deferred later next,
      Does 0 .interrupt ⟨smallBoard.performAll faultingOperations, [], 0⟩ deferred ∧
      Leads deferred later ∧ Does 0 (.take 0) later next ∧
      later.board.Relates 0 (Controller.Kills 0) next.board := by
  have hboard : (smallBoard.performAll faultingOperations).Reachable :=
    (Reachable.new (show new? [1] 0 = some smallBoard from rfl)).performAll faultingOperations
  have hfacts : (smallBoard.performAll faultingOperations).controllers.map (fun controller =>
        (controller.managed, Controller.hasChannel (controller.read .channelFaultStatus) 0,
          controller.isDebugBusy, (controller.notificationsOf 0).aborted)) =
      [(1, true, true, false)] := by
    decide +kernel
  have hlater : (smallBoard.performAll faultingOperations).controllers.map (fun controller =>
        let cleared := controller.onInterrupt.2.changeAll [(.debugStatus, 0)]
        ((cleared.notificationsOf 0).faulted,
          Controller.hasChannel (cleared.read .channelFaultStatus) 0, cleared.isDebugBusy)) =
      [(true, true, false)] := by
    decide +kernel
  obtain ⟨-, hretried, -⟩ := deferred_kill_retried hboard
  generalize smallBoard.performAll faultingOperations = board at hfacts hlater hretried ⊢
  obtain ⟨controller, rest, hcontrollers, hfacts, -⟩ := List.map_eq_cons_iff.mp hfacts
  rw [hcontrollers, List.map_cons, List.cons.injEq] at hlater
  obtain ⟨hlater, -⟩ := hlater
  have hfound : board.controllers[0]? = some controller := by
    rw [hcontrollers]
    rfl
  obtain ⟨hmanaged, hfault, hbusy, hlive⟩ := by simpa only [Prod.mk.injEq] using hfacts
  obtain ⟨hmarked, hstill, hidle⟩ := by simpa only [Prod.mk.injEq] using hlater
  have hinterrupts := Does.act hfound (Driver.Does.interrupt ⟨controller, board.references⟩)
    (.keep (by exact trivial) ([], 0))
  have hdeferred := found_withDriver hfound ⟨controller.onInterrupt.2, board.references⟩
  have hclears : Driver.Does .work ⟨controller.onInterrupt.2, board.references⟩
      ⟨controller.onInterrupt.2.changeAll [(.debugStatus, 0)], board.references⟩ :=
    .work (Controller.quiet_changeAll ..) rfl
  have hchanges := Does.act hdeferred hclears (.keep (by exact trivial) ([], 0))
  have hcleared := found_withDriver hdeferred
    ⟨controller.onInterrupt.2.changeAll [(.debugStatus, 0)], board.references⟩
  have hdue : Driver.Due 0
      ⟨controller.onInterrupt.2.changeAll [(.debugStatus, 0)], board.references⟩ := .inr hmarked
  have htakes := Does.act hcleared (Driver.Does.take hdue) (.begin 0 [] 0)
  obtain ⟨-, -, hretry⟩ := hretried 0 0 _ _ .refl hinterrupts
    (managedAt_eq hfound ▸ hmanaged.symm ▸ Nat.zero_lt_one) ⟨controller, hfound, hfault⟩
    ⟨controller, hfound, hbusy⟩ ((congrArg Notifications.aborted (stateOf_eq hfound 0)).trans hlive)
  have hidle : ¬ Busy 0 ((board.withDriver 0 _).withDriver 0 _) := fun hbusy =>
    Bool.false_ne_true (hidle.symm.trans (hbusy.busy hcleared))
  obtain ⟨-, hkills⟩ := hretry _
    (.single (.act (fun _ => ⟨by exact nofun, by exact nofun, by exact nofun⟩) hchanges))
    ⟨_, hcleared, hstill⟩ hidle
  exact ⟨_, _, _, hinterrupts, .single (.act trivial hchanges), htakes, hkills _ htakes⟩

/-- The kill is forgotten after a visit that finds the debug interface busy: although
the channel is still faulting, a visit that finds the interface idle leaves it alone.
Only handling interrupts again kills it. -/
theorem deferred_kill_forgotten :
    ((smallBoard.performAll (faultingOperations ++
        [.controller 0 .interrupt, .controller 0 .dispatch,
          .controller 0 (.change [(.debugStatus, 0)]), .controller 0 .dispatch])).controllers.map
      fun controller => (Controller.hasChannel (controller.read .channelFaultStatus) 0,
        controller.isDebugBusy, controller.kills 0,
        Controller.hasChannel (controller.read .interruptEnable) 0,
        (controller.notificationsOf 0).aborted)) =
      [(true, false, 0, true, false)] ∧
    ((smallBoard.performAll (faultingOperations ++
        [.controller 0 .interrupt, .controller 0 .dispatch,
          .controller 0 (.change [(.debugStatus, 0)]), .controller 0 .interrupt])).controllers.map
      fun controller => (controller.kills 0,
        Controller.hasChannel (controller.read .interruptEnable) 0,
        (controller.notificationsOf 0).aborted)) =
      [(1, false, true)] := by
  constructor <;> decide +kernel

end Board

end CyclicDma
