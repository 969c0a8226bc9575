import CyclicDma.Proofs.Controller.Tending

/-! # How long a wait takes

A wait tests its condition before the first microsecond and after each one. So it
ends at the first moment at which the condition is found to hold, or when it did not
hold at any moment up to the bound.
-/

namespace CyclicDma.Controller

variable {world : World} {condition : Controller → Bool}
variable {before after controller : Controller}

/-! ## Letting time pass -/

/-- Time passes in a world, and the driver does nothing. -/
abbrev Elapses (world : World) : Controller → Controller → Prop :=
  Relation.ReflTransGen fun before after => after = before.pause world

theorem Elapses.idles (hworld : world.Causes Disturbance.IsChange)
    (helapses : Elapses world before after) : Idles before after := by
  induction helapses with
  | refl => exact .refl before
  | tail _ hstep ih =>
      subst hstep
      exact ih.trans (idles_pause hworld _)

theorem wasStarted_of_setup (hsetup : after.setup = before.setup) (channel : Nat) :
    after.wasStarted channel = before.wasStarted channel := by
  rw [wasStarted, wasStarted, request?, request?, hsetup]

theorem Idles.wasStarted (hidles : Idles before after) (channel : Nat) :
    after.wasStarted channel = before.wasStarted channel :=
  wasStarted_of_setup hidles.setup channel

/-- The controller after some microseconds in which its driver does nothing. -/
def later (world : World) (microseconds : Nat) (controller : Controller) : Controller :=
  (pause world)^[microseconds] controller

theorem elapses_later (world : World) (microseconds : Nat) (controller : Controller) :
    Elapses world controller (later world microseconds controller) := by
  induction microseconds generalizing controller with
  | zero => exact .refl
  | succ microseconds ih => exact .head rfl (ih _)

theorem setup_later (world : World) (microseconds : Nat) (controller : Controller) :
    (later world microseconds controller).setup = controller.setup := by
  induction microseconds generalizing controller with
  | zero => rfl
  | succ microseconds ih => exact (ih _).trans (waits_pause world controller).setup

/-! ## When a condition is found to hold -/

/-- The condition is found to hold after some microseconds, and at no moment before. -/
structure FoundAfter (world : World) (condition : Controller → Bool) (controller : Controller)
    (microseconds : Nat) : Prop where
  holds : condition (later world microseconds controller) = true
  first (earlier : Nat) (hearlier : earlier < microseconds) :
    condition (later world earlier controller) = false

/-- The condition is not found to hold, however often a wait tests it. -/
def NeverFound (world : World) (condition : Controller → Bool) (controller : Controller) : Prop :=
  ∀ microseconds ≤ waitBound, condition (later world microseconds controller) = false

theorem FoundAfter.succ (hnow : condition controller = false) {microseconds : Nat}
    (hfound : FoundAfter world condition (controller.pause world) microseconds) :
    FoundAfter world condition controller (microseconds + 1) where
  holds := hfound.holds
  first earlier hearlier := by
    cases earlier with
    | zero => exact hnow
    | succ earlier => exact hfound.first earlier (Nat.lt_of_succ_lt_succ hearlier)

/-- A wait tells whether its condition was found to hold in time, and ends when it
was. -/
theorem waitFor_cases (world : World) (condition : Controller → Bool) (bound : Nat)
    (controller : Controller) :
    (∃ microseconds ≤ bound, FoundAfter world condition controller microseconds ∧
      waitFor world condition bound controller = (true, later world microseconds controller)) ∨
    (∀ microseconds ≤ bound, condition (later world microseconds controller) = false) ∧
      waitFor world condition bound controller = (false, later world bound controller) := by
  -- the induction is on the microseconds that are left
  induction bound generalizing controller with
  | zero =>
      cases hnow : condition controller with
      | true => exact .inl ⟨0, Nat.le_refl 0, ⟨hnow, by exact nofun⟩, Prod.ext hnow rfl⟩
      | false =>
          refine .inr ⟨fun microseconds hzero => ?_, Prod.ext hnow rfl⟩
          rw [Nat.le_zero.mp hzero]
          exact hnow
  | succ bound ih =>
      unfold waitFor
      cases hnow : condition controller with
      | true => exact .inl ⟨0, Nat.zero_le _, ⟨hnow, by exact nofun⟩, rfl⟩
      | false =>
          rcases ih (controller.pause world) with
            ⟨microseconds, hbound, hfound, hwait⟩ | ⟨hnever, hwait⟩
          · exact .inl ⟨microseconds + 1, Nat.succ_le_succ hbound, hfound.succ hnow, hwait⟩
          · refine .inr ⟨fun microseconds hbound => ?_, hwait⟩
            cases microseconds with
            | zero => exact hnow
            | succ microseconds => exact hnever microseconds (Nat.le_of_succ_le_succ hbound)

/-- A channel is waited for until it is first found in an accepted state, or it is given
up. -/
theorem awaitState_found (world : World) (channel : Nat) (accept : ChannelState → Bool)
    (controller : Controller) :
    (∃ microseconds ≤ waitBound,
      FoundAfter world (fun controller => accept (controller.channelState channel)) controller
        microseconds ∧
      (awaitState world channel accept).perform controller =
        (.ok ((later world microseconds controller).channelState channel),
          later world microseconds controller)) ∨
    NeverFound world (fun controller => accept (controller.channelState channel)) controller ∧
      ∃ message, (awaitState world channel accept).perform controller =
        (.error .timeout, (later world waitBound controller).log message) := by
  rw [perform_awaitState]
  rcases waitFor_cases world (fun controller => accept (controller.channelState channel)) waitBound
      controller with ⟨microseconds, hbound, hfound, hwait⟩ | ⟨hnever, hwait⟩
  · exact .inl ⟨microseconds, hbound, hfound, by rw [hwait]⟩
  · exact .inr ⟨hnever, _, by rw [hwait]⟩

/-- A command is handed over at the first moment at which the debug interface is found
idle, or it is dropped. -/
theorem execute_found (world : World) (thread : ThreadId) (command : Command)
    (controller : Controller) :
    (∃ microseconds ≤ waitBound,
      FoundAfter world (!·.isDebugBusy) controller microseconds ∧
      (execute world thread command).perform controller =
        (.ok true, (later world microseconds controller).issue thread command)) ∨
    NeverFound world (!·.isDebugBusy) controller ∧
      ∃ message, (execute world thread command).perform controller =
        (.ok false, (later world waitBound controller).log message) := by
  rw [perform_execute]
  rcases waitFor_cases world (!·.isDebugBusy) waitBound controller with
    ⟨microseconds, hbound, hfound, hwait⟩ | ⟨hnever, hwait⟩
  · exact .inl ⟨microseconds, hbound, hfound, by rw [hwait]⟩
  · exact .inr ⟨hnever, _, by rw [hwait]⟩

end CyclicDma.Controller
