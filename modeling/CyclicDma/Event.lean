import CyclicDma.Log
import CyclicDma.Notification
import CyclicDma.Register

/-! # Events

The history of a controller is the list of what its driver did and what was done
to it. Most events stand for register writes; `Event.writes` lists them.
-/

namespace CyclicDma

/-- Something that happened at a controller. -/
inductive Event where
  /-- The driver stored a value in a register. -/
  | write (register : Register) (value : UInt32)
  /-- The driver handed a command over through the debug registers. -/
  | issue (thread : ThreadId) (command : Command)
  /-- The driver acknowledged raised events. -/
  | acknowledge (raised : UInt32)
  /-- A register took a value on its own. -/
  | change (register : Register) (value : UInt32)
  /-- The driver let one microsecond pass. -/
  | delay
  | log (message : LogMessage)
  /-- Periods of a channel were taken for delivery. -/
  | take (channel : Nat) (periods : UInt32)
  /-- Periods of a channel were forgotten. -/
  | discard (channel : Nat) (periods : UInt32)
  | call (callback : Callback) (channel : Nat) (context : UInt64)
  /-- A callback, or whoever blocks on a period, acknowledged the interrupts. -/
  | interrupted (handled : Bool)
  /-- A callback removed the registrations of an owner. -/
  | ownerRemoved (count : Nat)
  /-- A callback finished delivering periods. -/
  | dispatched
  /-- Whoever waited for a period was woken. -/
  | wake (waker : Waker)
deriving DecidableEq, Repr

namespace Event

/-- The register writes that the event stands for, in order. -/
def writes : Event → List (Register × UInt32)
  | write register value => [(register, value)]
  | issue thread command =>
      [(.debugInstruction0, command.firstWord thread),
        (.debugInstruction1, command.secondWord), (.debugCommand, 0)]
  | acknowledge raised => [(.interruptClear, raised)]
  | _ => []

end Event

end CyclicDma
