import CyclicDma.Controller.Wait

/-! # Stopping threads

Stopping a thread hands over a kill and masks the thread's event. It does not
wait for the thread to stop. A thread that is stopped, or will be, is left
alone.
-/

namespace CyclicDma.Controller

/-- The state that decides whether a thread is killed. A channel that is about
to fault is waited for, until the fault is there or it is being killed. -/
def decidingState (world : World) (thread : ThreadId) : Attempt Controller ThreadState := do
  match thread, (← get).threadState thread with
  | .channel channel, .channel .faultCompleting =>
      return .channel
        (← awaitState world channel fun state => state = .faulting || state = .killing)
  | _, state => return state

/-- Forget that a channel was started. -/
def markStopped (thread : ThreadId) (controller : Controller) : Controller :=
  match thread with
  | .manager => controller
  | .channel channel => controller.setRunning false channel

/-- Kill a thread, unless it is stopping anyway. -/
def stopThread (world : World) (thread : ThreadId) : Attempt Controller Unit := do
  let state ← decidingState world thread
  if !state.isStopping then
    if ← execute world thread .kill then
      modify (·.silence thread)
      modify (·.log (.killed thread state))
    else
      throw .timeout
  modify (·.markStopped thread)

/-- Stop a channel. -/
def stop (world : World) (channel : Nat) : Attempt Controller Unit := do
  modify (·.noteAbort channel)
  stopThread world (.channel channel)

/-- Kill the manager, unless it is stopped. -/
def stopManager (world : World) : Attempt Controller Unit :=
  stopThread world .manager

end CyclicDma.Controller
