import CyclicDma.Controller.Channel
import CyclicDma.Future

/-! # Waiting for the next period

A period future is ready once a period of its channel was delivered after the
future was made. It fails if no period can come, because the channel does not
run or has faulted.
-/

namespace CyclicDma

/-- A future that is ready after the next period of a channel. -/
structure PeriodFuture where
  channel : Nat
  /-- The periods that were delivered when the future was made. -/
  periods : UInt32
deriving DecidableEq, Repr

namespace Controller

/-- A future for the next period of a channel. -/
def nextPeriod (channel : Nat) (controller : Controller) : PeriodFuture :=
  ⟨channel, (controller.notificationsOf channel).periods⟩

/-- Poll a period future. While it is pending, the waker replaces the one that
is stored for the channel. -/
def pollPeriod (future : PeriodFuture) (waker : Waker) (controller : Controller) :
    Poll (Except DmaError Unit) × Controller :=
  let state := controller.channelState future.channel
  if (controller.notificationsOf future.channel).periods ≠ future.periods then
    (.ready (.ok ()), controller)
  else if !controller.isRunning future.channel || state.isFault then
    (.ready (.error (.unsupportedState state)), controller)
  else
    (.pending, controller.updateNotifications future.channel ({ · with waker := some waker }))

end Controller

end CyclicDma
