import CyclicDma.ControlWord

/-! # Cyclic transfers

A cyclic transfer moves a ring of periods between memory and a peripheral, or
between two places in memory, over and over. Each period moves as many whole
bursts as it holds, and then the bytes that are left over.
-/

namespace CyclicDma

/-- The direction of a transfer. A peripheral is named by its request
interface. -/
inductive Direction where
  /-- Between two places in memory, as fast as the controller can. -/
  | memoryToMemory
  /-- Into the peripheral, as it asks for data. -/
  | memoryToPeripheral (peripheral : UInt8)
  /-- Out of the peripheral, as it offers data. -/
  | peripheralToMemory (peripheral : UInt8)
deriving DecidableEq, Repr

namespace Direction

/-- The peripheral that sets the pace of the transfer. -/
def peripheral? : Direction → Option UInt8
  | memoryToMemory => none
  | memoryToPeripheral peripheral | peripheralToMemory peripheral => some peripheral

/-- Let the memory addresses increment. A peripheral stays at its address. -/
def control : Direction → ControlWord → ControlWord
  | memoryToMemory => .increment true true
  | memoryToPeripheral _ => .increment true false
  | peripheralToMemory _ => .increment false true

end Direction

structure Transfer where
  /-- How whole bursts are moved. -/
  control : ControlWord
  direction : Direction
  source : UInt32
  destination : UInt32
  /-- The bytes of a period. -/
  periodBytes : UInt32
  /-- The periods before the addresses start again. -/
  periods : UInt32
deriving DecidableEq, Repr

namespace Transfer

/-- The whole bursts of a period. -/
def bursts (transfer : Transfer) : UInt32 :=
  transfer.periodBytes / transfer.control.burstBytes

/-- The bytes of a period that do not fill a burst. -/
def remainderBytes (transfer : Transfer) : UInt32 :=
  transfer.periodBytes % transfer.control.burstBytes

end Transfer

end CyclicDma
