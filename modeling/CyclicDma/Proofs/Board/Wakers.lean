import CyclicDma.Proofs.Board.Futures
import CyclicDma.Proofs.Board.Lending

/-! # Wakers

A channel keeps one waker, that of the latest pending poll. The next visit that takes
the periods of the channel takes the waker too, and wakes it in the end.
-/

namespace CyclicDma

/-- The act replaces, takes or forgets the waker of a channel. -/
def Act.Rewakes (channel : Nat) : Act → Prop
  | await other _ | take other | clear other => other = channel
  | _ => False

/-- Whatever else a driver does, whoever waits keeps waiting. -/
theorem Driver.Alters.waker {act : Act} {channel : Nat} {before after : Notifications}
    (halters : Alters channel act before after) (hwaits : ¬ act.Rewakes channel) :
    after.waker = before.waker := by
  cases halters with
  | keep | interrupt | removeOwner | note => rfl
  | take | await | clear => exact absurd rfl hwaits
  | register hregister =>
      obtain rfl := Notifications.register_eq_ok hregister
      rfl
  | unregister hunregister =>
      obtain ⟨-, rfl⟩ := Notifications.unregister_eq_ok hunregister
      rfl

namespace Moment

variable {allowed : Moment → Nat → Act → Prop} {start before after moment : Moment}
variable {later taken final : Moment} {index channel : Nat} {waker : Waker}

/-! ## Waiting -/

/-- A pending poll keeps its waker at the channel. -/
theorem Does.waker_of_await (hdoes : Does index (.await channel waker) before after)
    (hmanaged : channel < after.board.managedAt index) :
    (after.board.stateOf index channel).waker = some waker := by
  rw [hdoes.managedAt] at hmanaged
  cases hdoes with
  | act hfound hdriver =>
      cases hdriver with
      | await =>
          rw [Board.managedAt_eq hfound] at hmanaged
          rw [Board.stateOf_withDriver_self hfound]
          exact congrArg Notifications.waker
            (Controller.notificationsOf_updateNotifications_self _ hmanaged)

theorem Unfolds.keeps_waker (hunfolds : Unfolds allowed start moment)
    (hallowed : ∀ moment act, allowed moment index act → ¬ act.Rewakes channel) :
    (moment.board.stateOf index channel).waker = (start.board.stateOf index channel).waker := by
  induction hunfolds with
  | refl => rfl
  | tail _ hnext ih =>
      refine Eq.trans ?_ ih
      rcases hnext.alters index channel with hsame | ⟨act, hact, -, halters⟩
      · rw [hsame]
      · exact halters.waker (hallowed _ act hact)

/-- Whoever polled last is woken by the next visit that takes the periods: from then on
the visit is under way, until it wakes. -/
theorem Does.wakes {polled : Moment} (hawaits : Does index (.await channel waker) before polled)
    (hunfolds : Unfolds allowed polled later)
    (hallowed : ∀ moment act, allowed moment index act → ¬ act.Rewakes channel)
    (htakes : Does index (.take channel) later taken) (hleads : Leads taken final) :
    (∃ visit ∈ final.visits, visit.number = later.begun ∧ visit.controller = index ∧
        visit.channel = channel ∧ visit.waker = some waker) ∨
      ∃ before after, Leads taken before ∧ Does index (.finish channel (some waker)) before after ∧
        Leads after final := by
  have hmanaged : channel < polled.board.managedAt index := by
    rw [← hunfolds.managedAt]
    exact htakes.managed_of_take
  have hwaker : (later.beginning index channel).waker = some waker :=
    (hunfolds.keeps_waker hallowed).trans (hawaits.waker_of_await hmanaged)
  have hbegins : later.beginning index channel ∈ taken.visits :=
    htakes.visits_take ▸ List.mem_cons_self
  rcases hleads.visit_goes_on hbegins with
    ⟨visit, hvisit, hcontinues⟩ | ⟨before, after, hbefore, hfinishes, hafter⟩
  · exact .inl ⟨visit, hvisit, hcontinues.number, hcontinues.controller, hcontinues.channel,
      hcontinues.waker.trans hwaker⟩
  · rw [hwaker] at hfinishes
    exact .inr ⟨before, after, hbefore, hfinishes, hafter⟩

end Moment

namespace Board

open Moment (Leads Unfolds Does)

variable {board : Board} {held : HeldFuture} {name : Nat}

/-! ## Polls and waking -/

/-- A poll that is pending waits, and any other one changes nothing. -/
theorem awaits_of_poll (hheld : board.future? name = some held) (waker : Waker) :
    (board.perform (.future name (.poll waker))).1 = .ok .pending ∧
        (∀ visits begun, Does held.controller (.await held.future.channel waker)
          ⟨board, visits, begun⟩
          ⟨(board.perform (.future name (.poll waker))).2, visits, begun⟩) ∨
      (board.perform (.future name (.poll waker))).1 ≠ .ok .pending ∧
        (board.perform (.future name (.poll waker))).2 = board := by
  have hexisting : (existing (board.future? name)).run.run board = (.ok held, board) := by
    rw [hheld]
    rfl
  cases hfound : board.controllers[held.controller]? with
  | none =>
      have hrefused : board.perform (.future name (.poll waker)) = (.error .unknown, board) :=
        (run_bind_of_ok rfl _).trans ((run_bind_of_ok hexisting _).trans
          (run_bind_of_error (run_onDriver_of_none hfound _) _))
      rw [hrefused]
      exact .inr ⟨nofun, rfl⟩
  | some controller =>
      rw [perform_poll hheld hfound]
      rcases Controller.pollPeriod_cases held.future waker controller with
        ⟨result, hready⟩ | hpending
      · rw [hready]
        refine .inr ⟨?_, withDriver_self hfound⟩
        cases result <;> nofun
      · rw [hpending]
        refine .inl ⟨rfl, fun visits begun => ?_⟩
        exact .act hfound (.await held.future.channel waker _) (.keep (by exact trivial) (visits, begun))

/-- Whatever is done with a board: the latest pending poll of a channel waits, and the
next visit that takes the periods or the fault of the channel wakes it, as long as no
other future of the channel is pending when it is polled in between. The channel is
not cleared while the future is there. -/
theorem latest_poll_woken (hboard : board.Reachable) :
    board.IsPlayed ∧
      (∀ name held waker, board.future? name = some held →
        (board.perform (.future name (.poll waker))).1 = .ok .pending ∧
            (∀ visits begun, Does held.controller (.await held.future.channel waker)
              ⟨board, visits, begun⟩
              ⟨(board.perform (.future name (.poll waker))).2, visits, begun⟩) ∨
          (board.perform (.future name (.poll waker))).1 ≠ .ok .pending ∧
            (board.perform (.future name (.poll waker))).2 = board) ∧
      (∀ operation, ∀ held ∈ board.futures, held ∈ (board.perform operation).2.futures →
        ∀ visits begun, ∃ next, Unfolds
          (fun _ index act => operation.Involves board index act ∧
            (index = held.controller → act ≠ .clear held.future.channel))
          ⟨board, visits, begun⟩ ⟨(board.perform operation).2, visits, next⟩) ∧
      (∀ index channel waker moment polled later taken final,
        Does index (.await channel waker) moment polled →
        Unfolds (fun _ other act => other = index → ¬ act.Rewakes channel) polled later →
        Does index (.take channel) later taken → Leads taken final →
        (∃ visit ∈ final.visits, visit.number = later.begun ∧ visit.controller = index ∧
            visit.channel = channel ∧ visit.waker = some waker) ∨
          ∃ before after, Leads taken before ∧
            Does index (.finish channel (some waker)) before after ∧ Leads after final) ∧
      ∀ index channel waker moment next, Does index (.finish channel (some waker)) moment next →
        next.board.deliveriesOf index = .wake waker :: moment.board.deliveriesOf index := by
  refine ⟨hboard.isPlayed, ?_, ?_, ?_, ?_⟩
  · intro name held waker hheld
    exact awaits_of_poll hheld waker
  · intro operation held hbefore hafter visits begun
    exact hboard.unfolds_waiting operation hbefore hafter visits begun
  · intro index channel waker moment polled later taken final hawaits hunfolds htakes hleads
    exact hawaits.wakes hunfolds (fun _ _ hact => hact rfl) htakes hleads
  · intro index channel waker moment next hfinishes
    exact hfinishes.deliveriesOf

/-- A client polls the future for a period of the ring. -/
def polledBoard : Board :=
  ((smallBoard.performAll waitingOperations).perform (.future 1 (.poll (.task 11)))).2

theorem reachable_waiting : (smallBoard.performAll waitingOperations).Reachable :=
  (Reachable.new (show new? [1] 0 = some smallBoard from rfl)).performAll waitingOperations

theorem eq_pending {result : Except Refusal Answer}
    (hpending : (result matches .ok .pending) = true) : result = .ok .pending := by
  split at hpending
  · rfl
  · cases hpending

/-- A period of the ring is acknowledged and taken, and the client is woken. -/
theorem latest_poll_woken_ring :
    ∃ later taken, Leads ⟨polledBoard, [], 0⟩ later ∧ Does 0 (.take 0) later taken ∧
      ∀ final, Leads taken final → final.visits = [] →
        ∃ before after, Leads taken before ∧
          Does 0 (.finish 0 (some (.task 11))) before after ∧ Leads after final := by
  have hanswer : ((smallBoard.performAll waitingOperations).perform
      (.future 1 (.poll (.task 11)))).1 = .ok .pending := eq_pending (by decide +kernel)
  have hfuture : (smallBoard.performAll waitingOperations).future? 1 = some ⟨1, 0, 0, 0⟩ := by
    decide +kernel
  have hpending : ((polledBoard.perform (.controller 0 (.change [(.eventStatus, 1)]))).2.perform
      (.controller 0 .interrupt)).2.controllers.map
        (fun controller => (controller.notificationsOf 0).pending) = [1] := by
    decide +kernel
  obtain ⟨-, hpolls, -, hwakes, -⟩ := latest_poll_woken reachable_waiting
  have hawaits := (hpolls 1 _ (.task 11) hfuture).elim (fun hboth => hboth.2 [] 0)
    fun hother => absurd hanswer hother.1
  -- the period is acknowledged, and nobody waits instead
  have hpolled : polledBoard.Reachable := reachable_waiting.perform _
  obtain ⟨changed, hchanges⟩ :=
    hpolled.isPlayed.perform (.controller 0 (.change [(.eventStatus, 1)])) [] 0
  obtain ⟨begun, hinterrupts⟩ :=
    (hpolled.perform (.controller 0 (.change [(.eventStatus, 1)]))).isPlayed.perform
      (.controller 0 .interrupt) [] changed
  have hquiet : Unfolds (fun _ other act => other = 0 → ¬ act.Rewakes 0) ⟨polledBoard, [], 0⟩
      ⟨((polledBoard.perform (.controller 0 (.change [(.eventStatus, 1)]))).2.perform
        (.controller 0 .interrupt)).2, [], begun⟩ := by
    refine (hchanges.mono ?_).trans (hinterrupts.mono ?_)
    · rintro _ index act ⟨_, ⟨-, rfl⟩, rfl⟩ _
      exact id
    · rintro _ index act ⟨_, ⟨-, rfl⟩, rfl⟩ _
      exact id
  obtain ⟨controller, rest, hcontrollers, hdue, -⟩ := List.map_eq_cons_iff.mp hpending
  generalize ((polledBoard.perform (.controller 0 (.change [(.eventStatus, 1)]))).2.perform
    (.controller 0 .interrupt)).2 = later at hquiet hcontrollers
  have hfound : later.controllers[0]? = some controller := by
    rw [hcontrollers]
    rfl
  have htakes := Does.act hfound
    (Driver.Does.take (show Driver.Due 0 ⟨controller, later.references⟩ from .inl (by rw [hdue]; decide)))
    (.begin 0 [] begun)
  refine ⟨_, _, hquiet.mono (fun _ _ _ _ => trivial), htakes, fun final hleads hnone => ?_⟩
  refine (hwakes 0 0 (.task 11) _ _ _ _ final hawaits hquiet htakes hleads).resolve_left ?_
  rintro ⟨visit, hvisit, -⟩
  rw [hnone] at hvisit
  exact List.not_mem_nil hvisit

/-- Two clients wait for a period of the ring, and only the one that polled last is
woken. -/
theorem earlier_poll_lost :
    (((smallBoard.performAll (waitingOperations ++ [.channel 7 (.nextPeriod 2)])).perform
      (.future 1 (.poll (.task 11)))).1 matches .ok .pending) = true ∧
    ((smallBoard.performAll (waitingOperations ++ [.channel 7 (.nextPeriod 2),
      .future 1 (.poll (.task 11)), .future 2 (.poll (.task 22))])).futures.map (·.name)) = [1, 2] ∧
    (smallBoard.performAll (waitingOperations ++ [.channel 7 (.nextPeriod 2),
      .future 1 (.poll (.task 11)), .future 2 (.poll (.task 22))] ++
        deliveringOperations)).controllers.map (fun controller =>
          (controller.total .taken 0, controller.deliveries)) =
      [(1, [.wake (.task 22)])] := by
  refine ⟨?_, ?_, ?_⟩
  all_goals decide +kernel

end Board

end CyclicDma
