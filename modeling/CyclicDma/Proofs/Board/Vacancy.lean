import CyclicDma.Proofs.Board.Calls
import CyclicDma.Proofs.Board.Futures
import CyclicDma.Proofs.Board.Places
import CyclicDma.Proofs.Board.Registrations
import CyclicDma.Proofs.Board.Retries

/-! # Vacant channels

A channel that becomes free is cleared, and nobody works on it until it is allocated
again. Interrupts are still handled for it: they count a period if its event is raised
and enabled, and mark a fault if it is among the faulting channels. Allocating it clears
nothing, so the next holder finds what was counted and marked, and nothing else.
-/

namespace CyclicDma

/-! ## What acts leave of a vacant channel -/

namespace Notifications

/-- No callback is registered, and nobody waits. -/
structure Deserted (notifications : Notifications) : Prop where
  registrations : notifications.registrations = []
  waker : notifications.waker = none

/-- No fault is marked, and no kill. -/
structure Unmarked (notifications : Notifications) : Prop where
  faulted : notifications.faulted = false
  aborted : notifications.aborted = false

theorem deserted_clear (notifications : Notifications) : notifications.clear.Deserted :=
  ⟨rfl, rfl⟩

theorem unmarked_clear (notifications : Notifications) : notifications.clear.Unmarked :=
  ⟨rfl, rfl⟩

end Notifications

namespace Driver

variable {act : Act} {channel : Nat} {before after : Notifications} {driver : Driver}

/-- What is not asked for by a client of the channel registers nothing and lets nobody
wait. -/
theorem Alters.deserted (halters : Alters channel act before after)
    (hforeign : act.IsForeign channel) (hdeserted : before.Deserted) : after.Deserted := by
  obtain ⟨hregistrations, hwaker⟩ := hdeserted
  cases halters with
  | keep | interrupt => exact ⟨hregistrations, hwaker⟩
  | take => exact ⟨hregistrations, rfl⟩
  | clear => exact Notifications.deserted_clear before
  | removeOwner owner =>
      refine ⟨?_, hwaker⟩
      change before.registrations.filter _ = []
      rw [hregistrations, List.filter_nil]
  | await | register | unregister | note => exact absurd rfl hforeign

/-- Only handling interrupts counts periods. -/
theorem Alters.pending_eq_zero (halters : Alters channel act before after)
    (hinterrupt : act ≠ .interrupt) (hnone : before.pending = 0) : after.pending = 0 := by
  cases halters with
  | keep | removeOwner | await | note => exact hnone
  | interrupt => exact absurd rfl hinterrupt
  | take | clear => rfl
  | register hregister =>
      obtain rfl := Notifications.register_eq_ok hregister
      exact hnone
  | unregister hunregister =>
      obtain ⟨-, rfl⟩ := Notifications.unregister_eq_ok hunregister
      exact hnone

/-- A visit marks no kill where no fault is marked. -/
theorem unmarked_taken (hunmarked : (driver.controller.notificationsOf channel).Unmarked)
    (hmanaged : channel < driver.controller.managed) :
    ((driver.taken channel).controller.notificationsOf channel).Unmarked := by
  rw [notificationsOf_taken hmanaged, retryAbort_of_unmarked hunmarked.faulted]
  exact ⟨rfl, hunmarked.aborted⟩

end Driver

namespace Controller

variable {controller : Controller} {channel : Nat}

/-- No period is counted for a channel whose event is not raised. -/
theorem pending_onInterrupt (hquiet : ¬ hasChannel controller.raised channel) :
    (controller.onInterrupt.2.notificationsOf channel).pending =
      (controller.notificationsOf channel).pending := by
  obtain ⟨_, _, hmarks⟩ := sameButMarks_onInterrupt channel controller
  rw [hmarks, counted, if_neg fun hboth => hquiet hboth.2]

/-- No fault and no kill is marked for a channel that is not among the faulting ones. -/
theorem unmarked_onInterrupt (hsound : ¬ hasChannel (controller.read .channelFaultStatus) channel)
    (hfew : controller.managed ≤ 32) (hunmarked : (controller.notificationsOf channel).Unmarked) :
    (controller.onInterrupt.2.notificationsOf channel).Unmarked := by
  rw [(handles_onInterrupt hfew).state]
  split
  · refine ⟨?_, ?_⟩
    · rw [Notifications.faulted_served, hunmarked.faulted, Bool.eq_false_of_not_eq_true hsound]
      rfl
    · rw [Notifications.aborted_served, hunmarked.aborted, Bool.eq_false_of_not_eq_true hsound]
      rfl
  · exact hunmarked

end Controller

/-! ## Moments -/

namespace Board

/-- The event of a channel is raised and enabled. -/
def Signalling (index channel : Nat) (board : Board) : Prop :=
  ∃ controller, board.controllers[index]? = some controller ∧
    Controller.hasChannel controller.raised channel = true

end Board

namespace Moment

variable {allowed : Moment → Nat → Act → Prop} {before after start moment : Moment}
variable {index channel : Nat}

theorem Does.pending_interrupt (hdoes : Does index .interrupt before after)
    (hquiet : ¬ before.board.Signalling index channel) :
    (after.board.stateOf index channel).pending = (before.board.stateOf index channel).pending := by
  obtain ⟨controller, hfound, hafter⟩ := hdoes.found_interrupt
  rw [Board.stateOf_eq hfound, Board.stateOf_eq hafter]
  exact Controller.pending_onInterrupt fun hraised => hquiet ⟨controller, hfound, hraised⟩

theorem Does.unmarked_interrupt (hdoes : Does index .interrupt before after)
    (hfew : before.board.managedAt index ≤ 32) (hsound : ¬ before.board.Faulting index channel)
    (hunmarked : (before.board.stateOf index channel).Unmarked) :
    (after.board.stateOf index channel).Unmarked := by
  obtain ⟨controller, hfound, hafter⟩ := hdoes.found_interrupt
  rw [Board.managedAt_eq hfound] at hfew
  rw [Board.stateOf_eq hfound] at hunmarked
  rw [Board.stateOf_eq hafter]
  exact Controller.unmarked_onInterrupt (fun hfault => hsound ⟨controller, hfound, hfault⟩) hfew
    hunmarked

theorem Does.unmarked_take (hdoes : Does index (.take channel) before after)
    (hunmarked : (before.board.stateOf index channel).Unmarked) :
    (after.board.stateOf index channel).Unmarked := by
  obtain ⟨driver, hfound, hdue, hafter⟩ := hdoes.found_take
  rw [Board.stateOf_eq hfound] at hunmarked
  rw [Board.stateOf_eq hafter]
  exact Driver.unmarked_taken hunmarked hdue.managed

/-- A deserted channel stays so while no client works on it. -/
theorem Unfolds.deserted (hunfolds : Unfolds allowed start moment)
    (hallowed : ∀ moment act, allowed moment index act → act.IsForeign channel)
    (hdeserted : (start.board.stateOf index channel).Deserted) :
    (moment.board.stateOf index channel).Deserted := by
  induction hunfolds with
  | refl => exact hdeserted
  | tail _ hnext ih =>
      rcases hnext.alters index channel with hsame | ⟨act, hact, -, halters⟩
      · exact hsame ▸ ih
      · exact halters.deserted (hallowed _ _ hact) ih

/-- No period becomes pending while the event of the channel is not raised. -/
theorem Unfolds.pending_eq_zero (hunfolds : Unfolds allowed start moment)
    (hallowed : ∀ moment, allowed moment index .interrupt → ¬ moment.board.Signalling index channel)
    (hnone : (start.board.stateOf index channel).pending = 0) :
    (moment.board.stateOf index channel).pending = 0 := by
  induction hunfolds with
  | refl => exact hnone
  | tail _ hnext ih =>
      rcases hnext.alters index channel with hsame | ⟨act, hact, hdoes, halters⟩
      · exact hsame ▸ ih
      · by_cases hinterrupt : act = .interrupt
        · subst hinterrupt
          exact (hdoes.pending_interrupt (hallowed _ hact)).trans ih
        · exact halters.pending_eq_zero hinterrupt ih

/-- Nothing is marked while the channel does not fault. -/
theorem Unfolds.unmarked (hunfolds : Unfolds allowed start moment)
    (hallowed : ∀ moment, allowed moment index .interrupt → ¬ moment.board.Faulting index channel)
    (hfew : start.board.managedAt index ≤ 32)
    (hunmarked : (start.board.stateOf index channel).Unmarked) :
    (moment.board.stateOf index channel).Unmarked := by
  induction hunfolds with
  | refl => exact hunmarked
  | @tail middle _ hearlier hnext ih =>
      rcases hnext.alters index channel with hsame | ⟨act, hact, hdoes, halters⟩
      · exact hsame ▸ ih
      · by_cases hinterrupt : act = .interrupt
        · subst hinterrupt
          exact hdoes.unmarked_interrupt ((Unfolds.managedAt hearlier index).le.trans hfew)
            (hallowed _ hact) ih
        · by_cases htake : act = .take channel
          · subst htake
            exact hdoes.unmarked_take ih
          · exact ⟨halters.sound hinterrupt ih.faulted,
              halters.aborted hinterrupt htake ih.aborted⟩

end Moment

/-! ## From clearing to allocating -/

namespace Board

open Moment (Unfolds Leads Does)

variable {allowed : Moment → Nat → Act → Prop} {seen : Board → Prop}
variable {board before after allocated : Board} {index channel name : Nat}

/-- Something is done with a board, by acts that are allowed. -/
inductive Passes (allowed : Moment → Nat → Act → Prop) : Board → Board → Prop
  | perform {board : Board} {next} (operation : Operation)
      (hunfolds : Unfolds (fun moment index act =>
          operation.Involves board index act ∧ allowed moment index act)
        ⟨board, [], 0⟩ ⟨(board.perform operation).2, [], next⟩) :
      Passes allowed board (board.perform operation).2
  | deliver {board : Board} {next} (other depth : Nat)
      (hunfolds : Unfolds (fun moment index act =>
          (index = other ∧ act.IsDelivering) ∧ allowed moment index act)
        ⟨board, [], 0⟩
        ⟨((onDriver other fun driver => ((), driver.dispatchNested depth)).run.run board).2, [],
          next⟩) :
      Passes allowed board
        ((onDriver other fun driver => ((), driver.dispatchNested depth)).run.run board).2

/-- A channel was free from when it was cleared last, or from the beginning, and no
interrupt was handled since then at a moment that is looked for. -/
inductive Rests (seen : Board → Prop) (index channel : Nat) : Board → Prop
  | new {channels owners board} (hnew : new? channels owners = some board) :
      Rests seen index channel board
  | clear {board : Board} (operation : Operation) (hboard : board.Reachable)
      (hfree : (board.perform operation).2.isHeld index channel = false)
      (hchanged : (board.perform operation).2.place? index channel ≠ board.place? index channel) :
      Rests seen index channel (board.perform operation).2
  | pass {before after : Board} (hrests : Rests seen index channel before)
      (hfree : before.isHeld index channel = false)
      (hpasses : Passes
        (fun moment other act => other = index → act = .interrupt → ¬ seen moment.board)
        before after) :
      Rests seen index channel after

theorem Passes.reachable (hpasses : Passes allowed before after) (hboard : before.Reachable) :
    after.Reachable := by
  cases hpasses with
  | perform operation => exact .perform operation hboard
  | deliver other depth => exact .deliver other depth hboard

/-- While a channel is free, no client works on it. -/
theorem Passes.unfolds (hpasses : Passes allowed before after) (hboard : before.Reachable)
    (hfree : before.isHeld index channel = false) :
    ∃ next, Unfolds (fun moment other act =>
        (other = index → act.IsForeign channel) ∧ allowed moment other act)
      ⟨before, [], 0⟩ ⟨after, [], next⟩ := by
  cases hpasses with
  | perform operation hunfolds =>
      refine ⟨_, hunfolds.mono fun moment other act hboth => ⟨?_, hboth.2⟩⟩
      rintro rfl
      exact hboard.isForeign hfree hboth.1
  | deliver other depth hunfolds =>
      refine ⟨_, hunfolds.mono fun moment other act hboth => ⟨?_, hboth.2⟩⟩
      rintro rfl
      exact hboth.1.2.isForeign channel

namespace Rests

theorem reachable (hrests : Rests seen index channel board) : board.Reachable := by
  induction hrests with
  | new hnew => exact .new hnew
  | clear operation hboard => exact .perform operation hboard
  | pass _ _ hpasses ih => exact hpasses.reachable ih

/-- What clearing brings about, and what is kept while nobody works on the channel. -/
theorem keep (invariant : Notifications → Prop) (hrests : Rests seen index channel board)
    (hfresh : invariant {}) (hclear : ∀ notifications : Notifications, invariant notifications.clear)
    (hkeeps : ∀ {before after : Board} {next}, before.Reachable →
      Unfolds (fun moment other act => (other = index → act.IsForeign channel) ∧
          (other = index → act = .interrupt → ¬ seen moment.board))
        ⟨before, [], 0⟩ ⟨after, [], next⟩ →
      invariant (before.stateOf index channel) → invariant (after.stateOf index channel)) :
    invariant (board.stateOf index channel) := by
  induction hrests with
  | new hnew =>
      rw [stateOf_of_new? hnew]
      exact hfresh
  | clear operation hboard hfree hchanged =>
      rcases perform_clears operation _ hfree with hsame | hcleared
      · exact absurd hsame hchanged
      · rw [hcleared]
        exact hclear _
  | pass hrests hfree hpasses ih =>
      obtain ⟨next, hunfolds⟩ := hpasses.unfolds hrests.reachable hfree
      exact hkeeps hrests.reachable hunfolds ih

/-- Nobody registers or waits, whatever is looked for. -/
theorem deserted (hrests : Rests seen index channel board) :
    (board.stateOf index channel).Deserted :=
  hrests.keep Notifications.Deserted ⟨rfl, rfl⟩ Notifications.deserted_clear
    fun _ hunfolds hdeserted =>
      hunfolds.deserted (fun _ _ hallowed => hallowed.1 rfl) hdeserted

/-- No period is pending if the event of the channel was not seen. -/
theorem pending_eq_zero (hrests : Rests (Signalling index channel) index channel board) :
    (board.stateOf index channel).pending = 0 :=
  hrests.keep (·.pending = 0) rfl (fun _ => rfl) fun _ hunfolds hnone =>
    hunfolds.pending_eq_zero (fun _ hallowed => hallowed.2 rfl rfl) hnone

/-- Nothing is marked if the channel was not seen to fault. -/
theorem unmarked (hrests : Rests (Faulting index channel) index channel board) :
    (board.stateOf index channel).Unmarked :=
  hrests.keep Notifications.Unmarked ⟨rfl, rfl⟩ Notifications.unmarked_clear
    fun hboard hunfolds hunmarked =>
      hunfolds.unmarked (fun _ hallowed => hallowed.2 rfl rfl) (hboard.managedAt_le index)
        hunmarked

end Rests

/-- A channel that is free was free from when it was cleared last. -/
theorem Reachable.rests (hboard : board.Reachable) (hfree : board.isHeld index channel = false) :
    Rests (fun _ => False) index channel board := by
  have hstill : ∀ {before after : Board}, after.isHeld index channel = false →
      after.place? index channel = before.place? index channel →
      before.isHeld index channel = false := by
    intro before after hafter hsame
    rw [isHeld_eq_place?, ← hsame]
    exact hafter
  induction hboard with
  | new hnew => exact .new hnew
  | @perform board operation hboard ih =>
      by_cases hsame : (board.perform operation).2.place? index channel =
          board.place? index channel
      · obtain ⟨next, hunfolds⟩ := hboard.unfolds_perform operation [] 0
        have hbefore := hstill hfree hsame
        exact .pass (ih hbefore) hbefore (.perform operation (hunfolds.mono fun _ _ _ hinvolves =>
          ⟨hinvolves, fun _ _ => not_false⟩))
      · exact .clear operation hboard hfree hsame
  | @deliver board other depth hboard ih =>
      obtain ⟨next, hunfolds⟩ := unfolds_deliver other depth board [] 0
      have huses : Uses (fun _ => True) (fun _ _ => True) board _ := uses_deliver other depth board
      have hbefore := hstill hfree (place?_of_divisions huses.divisions index channel)
      exact .pass (ih hbefore) hbefore (.deliver other depth (hunfolds.mono fun _ _ _ hdelivers =>
        ⟨hdelivers, fun _ _ => not_false⟩))

/-- Allocating a channel sets its request, and does nothing else to the controller. -/
theorem found_of_allocate {channel? : Option Nat}
    (hallocate : board.perform (.controller index (.allocate name channel?)) =
      (.ok (.channel channel), allocated)) :
    board.isHeld index channel = false ∧ ∃ controller, board.controllers[index]? = some controller ∧
      allocated.controllers[index]? = some (controller.setRequest channel (some {})) := by
  cases hfound : board.controllers[index]? with
  | none =>
      have hrefused : board.perform (.controller index (.allocate name channel?)) =
          (.error .unknown, board) := run_bind_of_error (run_attempt_of_none hfound _) _
      rw [hrefused] at hallocate
      cases hallocate
  | some controller =>
      cases hsetup : controller.setup with
      | none =>
          rw [perform_allocate_of_none hfound hsetup] at hallocate
          cases hallocate
      | some setup =>
          rw [perform_allocate hfound hsetup] at hallocate
          cases hchosen : Driver.chooseChannel channel? setup with
          | error error =>
              rw [hchosen] at hallocate
              cases hallocate
          | ok chosen =>
              rw [hchosen] at hallocate
              cases hallocate
              have hfree := Driver.free_of_chooseChannel hchosen
              refine ⟨?_, controller, rfl, ?_⟩
              · rw [isHeld_eq hfound hsetup, hfree]
                rfl
              · rw [(addHandle_frame _ _).1]
                exact found_withDriver hfound _

/-- Allocating a channel leaves its state as it was found. Nobody is registered or
waits there, but what was counted and marked while the channel was free is still
there: no period is pending if no interrupt was handled since the channel was cleared
while its event was raised and enabled, and nothing is marked if none was handled while
the channel faulted. Whatever happens then, each call for the channel belongs to a
visit that began after the allocation. The periods that such a visit takes, together
with those that were taken since the allocation before, do not outnumber those that
were acknowledged since and those that were found pending. -/
theorem allocate_vacant {channel? : Option Nat} (hboard : board.Reachable)
    (hallocate : board.perform (.controller index (.allocate name channel?)) =
      (.ok (.channel channel), allocated)) :
    allocated.stateOf index channel = board.stateOf index channel ∧
    (allocated.stateOf index channel).Deserted ∧
    (Rests (Signalling index channel) index channel board →
      (allocated.stateOf index channel).pending = 0) ∧
    (Rests (Faulting index channel) index channel board →
      (allocated.stateOf index channel).Unmarked) ∧
    (∀ moment next registration, Leads ⟨allocated, [], 0⟩ moment →
      Does index (.call channel registration) moment next →
      ∃ visit began,
        Moment.CalledBy ⟨allocated, [], 0⟩ visit began index channel registration moment) ∧
    ∀ later, Onward allocated later →
      ∀ start controller : Controller, allocated.controllers[index]? = some start →
        later.controllers[index]? = some controller →
        ∀ newer periods between,
          controller.history = newer ++ .take channel periods :: (between ++ start.history) →
          periods.toNat + (between.map (Event.periods .taken channel)).sum ≤
            (allocated.stateOf index channel).pending.toNat +
              (between.map (Event.periods .acknowledged channel)).sum := by
  obtain ⟨hfree, controller, hfound, hallocated⟩ := found_of_allocate hallocate
  have hsame : allocated.stateOf index channel = board.stateOf index channel := by
    rw [stateOf_eq hallocated, stateOf_eq hfound]
    rfl
  have hdeserted := (hboard.rests hfree).deserted
  rw [← hsame] at hdeserted
  refine ⟨hsame, hdeserted, fun hrests => ?_, fun hrests => ?_, ?_, ?_⟩
  · rw [hsame]
    exact hrests.pending_eq_zero
  · rw [hsame]
    exact hrests.unmarked
  · intro moment next registration hleads hcalls
    exact hcalls.calledBy hleads rfl
  · intro later hlater start last hstart hlast newer periods between hhistory
    obtain ⟨found, hfinally, hsteps⟩ := hlater.moves.found hstart
    rw [hlast] at hfinally
    cases hfinally
    rw [stateOf_eq hstart]
    exact hsteps.taken_le hhistory

theorem perform_eq_channel {operation : Operation}
    (hdone : (match (board.perform operation).1 with
      | .ok (.channel other) => decide (other = channel)
      | _ => false) = true) :
    board.perform operation = (.ok (.channel channel), (board.perform operation).2) := by
  refine Prod.ext ?_ rfl
  split at hdone
  next hresult => rw [hresult, of_decide_eq_true hdone]
  next => cases hdone

/-- The channel is given back before anything was started. -/
def returningOperations : List Operation :=
  ringOperations.take 2 ++ [.controller 0 (.release 7)]

/-- An interrupt is handled at a moment that is not looked for. -/
theorem passes_interrupt {controller : Controller}
    (hfound : board.controllers[index]? = some controller)
    (hallowed : allowed ⟨board, [], 0⟩ index .interrupt) :
    Passes allowed board (board.perform (.controller index .interrupt)).2 := by
  have hperform : (board.perform (.controller index .interrupt)).2 =
      board.withDriver index (Driver.onInterrupt ⟨controller, board.references⟩).2 :=
    congrArg Prod.snd (run_bind_of_ok (run_onDriver hfound Driver.onInterrupt) _)
  have hdoes : Moment.Does index .interrupt ⟨board, [], 0⟩
      ⟨board.withDriver index (Driver.onInterrupt ⟨controller, board.references⟩).2, [], 0⟩ :=
    .act hfound (.interrupt _) (.keep (by trivial) ([], 0))
  rw [← hperform] at hdoes
  exact .perform _ (.single (.act ⟨⟨.interrupt, ⟨rfl, rfl⟩, rfl⟩, hallowed⟩ hdoes))

/-- The event of the channel is raised while the channel is free, and another event is raised
and enabled. -/
def raisingOperation : Operation :=
  .controller 0 (.change [(.interruptEnable, 2), (.eventStatus, 3)])

theorem performAll_returning :
    smallBoard.performAll returningOperations =
      (readyBoard.perform (.controller 0 (.release 7))).2 := by
  rw [returningOperations, performAll, List.foldl_append]
  rfl

theorem reachable_returned : (smallBoard.performAll returningOperations).Reachable :=
  (Reachable.new (show new? [1] 0 = some smallBoard from rfl)).performAll _

/-- Raising events handles no interrupt. -/
theorem rests_raised (seen : Board → Prop) :
    Rests seen 0 0 ((smallBoard.performAll returningOperations).perform raisingOperation).2 := by
  have hfree : (smallBoard.performAll returningOperations).isHeld 0 0 = false := by
    decide +kernel
  have hchanged : (smallBoard.performAll returningOperations).place? 0 0 ≠
      readyBoard.place? 0 0 := by
    decide +kernel
  have hcleared : Rests seen 0 0 (smallBoard.performAll returningOperations) := by
    rw [performAll_returning] at hfree hchanged ⊢
    exact .clear _ reachable_ready hfree hchanged
  obtain ⟨next, hunfolds⟩ := reachable_returned.unfolds_perform raisingOperation [] 0
  refine .pass hcleared hfree (.perform _ (hunfolds.mono ?_))
  rintro moment index act ⟨demand, ⟨rfl, rfl⟩, rfl⟩
  refine ⟨⟨_, ⟨rfl, rfl⟩, rfl⟩, fun _ hinterrupt => ?_⟩
  cases hinterrupt

/-- An interrupt is handled while the channel is free, for the other event, so the next holder
finds nothing. -/
theorem allocate_vacant_returned :
    ∃ raised handled allocated,
      ((smallBoard.performAll returningOperations).perform raisingOperation).2 = raised ∧
      (raised.perform (.controller 0 .interrupt)).2 = handled ∧
      handled.controllers.map (·.history.head?) = [some (.acknowledge 2)] ∧
      handled.perform (.controller 0 (.allocate 8 none)) = (.ok (.channel 0), allocated) ∧
      (allocated.stateOf 0 0).pending = 0 ∧ (allocated.stateOf 0 0).Unmarked := by
  have hfree : ((smallBoard.performAll returningOperations).perform raisingOperation).2.isHeld 0 0 =
      false := by
    decide +kernel
  have hregisters : ((smallBoard.performAll returningOperations).perform
      raisingOperation).2.controllers.map (fun controller =>
        (Controller.hasChannel controller.raised 0,
          Controller.hasChannel (controller.read .channelFaultStatus) 0)) = [(false, false)] := by
    decide +kernel
  have hacknowledged : (((smallBoard.performAll returningOperations).perform
      raisingOperation).2.perform (.controller 0 .interrupt)).2.controllers.map
        (·.history.head?) = [some (.acknowledge 2)] := by
    decide +kernel
  have hallocate : (((smallBoard.performAll returningOperations).perform
      raisingOperation).2.perform (.controller 0 .interrupt)).2.perform
        (.controller 0 (.allocate 8 none)) = (.ok (.channel 0), _) :=
    perform_eq_channel (by decide +kernel)
  have hraised := reachable_returned.perform raisingOperation
  have hvacant := rests_raised
  generalize (Board.perform raisingOperation _).2 = raised at *
  obtain ⟨controller, hcontrollers, hregisters⟩ := List.map_eq_singleton_iff.mp hregisters
  obtain ⟨hquiet, hsound⟩ := Prod.mk.inj hregisters
  have hfound : raised.controllers[0]? = some controller := by rw [hcontrollers]; rfl
  -- what is looked for is not there at the moment at which the interrupt is handled
  have hrests : ∀ seen, ¬ seen raised →
      Rests seen 0 0 (raised.perform (.controller 0 .interrupt)).2 := fun seen hunseen =>
    .pass (hvacant seen) hfree (passes_interrupt hfound fun _ _ => hunseen)
  obtain ⟨-, -, hpending, hunmarked, -⟩ :=
    allocate_vacant (hraised.perform (.controller 0 .interrupt)) hallocate
  refine ⟨raised, _, _, rfl, rfl, hacknowledged, hallocate, hpending (hrests _ ?_),
    hunmarked (hrests _ ?_)⟩
  · rintro ⟨found, hother, hsignal⟩
    cases hfound.symm.trans hother
    rw [hquiet] at hsignal
    cases hsignal
  · rintro ⟨found, hother, hfault⟩
    cases hfound.symm.trans hother
    rw [hsound] at hfault
    cases hfault

/-- The channel was just started, and a stop leaves it alone. It is given back, and its
event is raised and handled. -/
def strayingOperations : List Operation :=
  ringOperations ++
    [.channel 7 (.stop fun _ => []), .controller 0 (.release 7),
      .controller 0 (.change [(.eventStatus, 1)]), .controller 0 .interrupt]

/-- The channel faults while it is free. -/
def vacantFaultOperations : List Operation :=
  returningOperations ++
    [.controller 0 (.change [(.channelFaultStatus, 1)]), .controller 0 .interrupt]

/-- The next holder is called for a period that was acknowledged before, or finds the
channel killed. -/
theorem allocated_unclear :
    smallBoard.Reachable ∧
      (∃ allocated, (smallBoard.performAll strayingOperations).perform
          (.controller 0 (.allocate 8 none)) = (.ok (.channel 0), allocated) ∧
        (allocated.stateOf 0 0).pending = 1 ∧
        allocated.controllers.map (·.total .acknowledged 0) = [1] ∧
        ∃ delivered, allocated.performAll [.channel 8 (.register ⟨0, []⟩ 5 none),
            .controller 0 .dispatch] = delivered ∧
          delivered.controllers.map (·.total .acknowledged 0) = [1] ∧
          delivered.deliveriesOf 0 = [.call ⟨0, []⟩ 0 5]) ∧
      ∃ allocated, (smallBoard.performAll vacantFaultOperations).perform
          (.controller 0 (.allocate 8 none)) = (.ok (.channel 0), allocated) ∧
        (allocated.stateOf 0 0).faulted = true ∧ (allocated.stateOf 0 0).aborted = true := by
  refine ⟨.new (show new? [1] 0 = some smallBoard from rfl),
    ⟨_, perform_eq_channel ?_, ?_, ?_, _, rfl, ?_, ?_⟩, _, perform_eq_channel ?_, ?_, ?_⟩
  all_goals decide +kernel

end Board

end CyclicDma
