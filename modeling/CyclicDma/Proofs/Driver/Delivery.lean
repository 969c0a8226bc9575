import CyclicDma.Proofs.Driver.Operations
import CyclicDma.Proofs.Controller.Ledger

/-! # What a visit delivers

A visit to a channel takes the pending periods at once. Then it invokes the
registrations that it found, all of them for each period and in their order.
Callbacks may deliver other periods meanwhile; the events of what a callback
does stand right behind its invocation. If the channel is still faulting and was not
killed yet, the events of a kill come first.
-/

namespace CyclicDma

namespace Controller

variable {before middle after : Controller} {first second : List Event}

/-- Some events are added to the history, given oldest first, and the configuration is as
before. -/
def Adds (events : List Event) (before after : Controller) : Prop :=
  after.history = events.reverse ++ before.history ∧ after.config = before.config

theorem Adds.trans (hfirst : Adds first before middle) (hsecond : Adds second middle after) :
    Adds (first ++ second) before after := by
  refine ⟨?_, hsecond.2.trans hfirst.2⟩
  rw [hsecond.1, hfirst.1, List.reverse_append, List.append_assoc]

end Controller

namespace Driver

/-- The events since an earlier state of the driver's controller, oldest
first. -/
def eventsSince (driver earlier : Driver) : List Event :=
  driver.controller.eventsSince earlier.controller

/-- A registration is called, and its callback reacts. -/
structure Invocation where
  registration : Registration
  /-- What the reactions add to the history. -/
  reactions : List Event

/-- The events of an invocation. -/
def Invocation.events (channel : Nat) (invocation : Invocation) : List Event :=
  .call invocation.registration.callback channel invocation.registration.context ::
    invocation.reactions

variable {react : React} {channel : Nat}

theorem notificationsOf_taken {driver : Driver} (hmanaged : channel < driver.controller.managed) :
    (driver.taken channel).controller.notificationsOf channel =
      ((driver.retryAbort channel).controller.notificationsOf channel).take :=
  Controller.notificationsOf_updateNotifications_self _
    ((retryAbort_frame channel driver).1.managed.symm ▸ hmanaged)

end Driver

end CyclicDma
