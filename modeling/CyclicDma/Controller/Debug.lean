import CyclicDma.Controller.Channel

/-! # The debug interface

Commands are handed over through the debug registers, one at a time, while the
interface is idle. A channel that is killed must not interrupt any more, so its
event is masked and acknowledged with the kill.
-/

namespace CyclicDma.Controller

/-- The debug status bit that is set while the interface is busy. -/
def busyField : BitField := ⟨0, 1⟩

/-- The debug interface is still executing a command. -/
def isDebugBusy (controller : Controller) : Bool :=
  busyField.get (controller.read .debugStatus) = 1

/-- Hand a command over. -/
def issue (thread : ThreadId) (command : Command) (controller : Controller) : Controller :=
  let event : Event := .issue thread command
  { controller with
    registers := event.writes.foldl (fun registers (register, value) =>
      registers.write register value) controller.registers }
    |>.record event
    |>.log (.executed thread command)

/-- Let the event of a channel raise its interrupt line. -/
def unmaskEvent (channel : Nat) (controller : Controller) : Controller :=
  controller.write .interruptEnable (controller.read .interruptEnable ||| channelBit channel)

/-- Keep the event of a channel from raising its interrupt line. -/
def maskEvent (channel : Nat) (controller : Controller) : Controller :=
  controller.write .interruptEnable (controller.read .interruptEnable &&& ~~~channelBit channel)

/-- Mask the event of a thread, and acknowledge it if it was not masked. The
manager has no event. -/
def silence (thread : ThreadId) (controller : Controller) : Controller :=
  match thread with
  | .manager => controller
  | .channel channel =>
      let acknowledged :=
        if hasChannel (controller.read .interruptEnable) channel then
          controller.write .interruptClear (channelBit channel)
        else controller
      acknowledged.maskEvent channel

/-- Kill a channel that the interrupt handler found faulting, unless the debug
interface is busy, and remember whether it was killed. -/
def abort (channel : Nat) (controller : Controller) : Controller :=
  if controller.isDebugBusy then controller
  else
    controller.issue (.channel channel) .kill
      |>.silence (.channel channel)
      |>.log (.aborted (.channel channel))
      |>.updateNotifications channel ({ · with aborted := true })

end CyclicDma.Controller
