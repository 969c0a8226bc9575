/-! # DMA controller instructions

The instructions that a thread of the DMA controller executes. Channel threads
run programs that the controller fetches from memory; the manager thread only
ever executes single instructions handed to it through the debug interface.
-/

namespace CyclicDma

/-- The kind of peripheral request that a load, a store or a loop end depends
on. -/
inductive Condition where
  | always
  | single
  | burst
deriving DecidableEq, Repr

/-- The request that a peripheral load or store acknowledges. -/
inductive RequestKind where
  | single
  | burst
deriving DecidableEq, Repr

/-- What a thread waits for before it serves a peripheral. -/
inductive WaitKind where
  | single
  | burst
  /-- Whatever the peripheral asks for. -/
  | peripheral
deriving DecidableEq, Repr

/-- The two loop counter registers of a channel. -/
inductive LoopCounter where
  | zero
  | one
deriving DecidableEq, Repr

/-- The registers that a move can load. -/
inductive MoveTarget where
  | source
  | control
  | destination
deriving DecidableEq, Repr

/-- The registers that a halfword can be added to. -/
inductive AddressRegister where
  | source
  | destination
deriving DecidableEq, Repr

/-- One instruction of a controller thread. -/
inductive Instruction where
  /-- `DMAEND`, the last instruction of a program. -/
  | finish
  /-- `DMAKILL`, stop the thread. -/
  | kill
  /-- `DMANOP`. -/
  | nop
  /-- `DMARMB`, wait for the loads so far. -/
  | readBarrier
  /-- `DMAWMB`, wait for the stores so far. -/
  | writeBarrier
  /-- `DMALD[S|B]`, read one burst from the source. -/
  | load (condition : Condition)
  /-- `DMALDP<S|B>`, read one burst and acknowledge the peripheral. -/
  | loadPeripheral (request : RequestKind) (peripheral : UInt8)
  /-- `DMAST[S|B]`, write one burst to the destination. -/
  | store (condition : Condition)
  /-- `DMASTP<S|B>`, write one burst and acknowledge the peripheral. -/
  | storePeripheral (request : RequestKind) (peripheral : UInt8)
  /-- `DMASTZ`, write one burst of zeros. -/
  | storeZero
  /-- `DMAWFP`, wait until the peripheral asks for service. -/
  | waitForPeripheral (wait : WaitKind) (peripheral : UInt8)
  /-- `DMAFLUSHP`, drop what the peripheral asked for so far. -/
  | flushPeripheral (peripheral : UInt8)
  /-- `DMALP`, begin a loop of 1 to 256 iterations. -/
  | loop (counter : LoopCounter) (iterations : UInt16)
  /-- `DMALPEND[S|B]`, close a counted loop, going back by `jump` bytes. -/
  | loopEnd (counter : LoopCounter) (condition : Condition) (jump : UInt8)
  /-- `DMALPEND` closing a `DMALPFE`, going back by `jump` bytes forever. -/
  | loopForever (counter : LoopCounter) (jump : UInt8)
  /-- `DMAMOV`, load a register. -/
  | move (target : MoveTarget) (value : UInt32)
  /-- `DMAADDH`, add to an address. -/
  | addHalfword (register : AddressRegister) (value : UInt16)
  /-- `DMASEV`, signal an event, which may raise its interrupt line. -/
  | signalEvent (event : UInt8)
  /-- `DMAWFE`, wait for an event. -/
  | waitForEvent (event : UInt8) (invalidate : Bool)
  /-- `DMAGO`, start a channel at an address. Only the manager executes it. -/
  | go (channel : UInt8) (address : UInt32) (nonsecure : Bool)
deriving DecidableEq, Repr

namespace Instruction

/-- The number of bytes that the instruction occupies in microcode. -/
def size : Instruction → Nat
  | finish | kill | nop | readBarrier | writeBarrier | load _ | store _ | storeZero => 1
  | loadPeripheral .. | storePeripheral .. | waitForPeripheral .. | flushPeripheral _ => 2
  | loop .. | loopEnd .. | loopForever .. | signalEvent _ | waitForEvent .. => 2
  | addHalfword .. => 3
  | move .. | go .. => 6

theorem size_pos (instruction : Instruction) : 0 < instruction.size := by
  cases instruction <;> simp [size]

theorem size_le_six (instruction : Instruction) : instruction.size ≤ 6 := by
  cases instruction <;> simp [size]

end Instruction

end CyclicDma
