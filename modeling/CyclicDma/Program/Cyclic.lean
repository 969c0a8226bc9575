import CyclicDma.Error
import CyclicDma.Program.Code
import CyclicDma.Transfer

/-! # Programs for cyclic transfers

The program of a cyclic transfer loads the control word once. Each pass then
loads both addresses, moves all periods, and jumps back to load the addresses
again, so the ring starts over forever. A period drops stale requests of the
peripheral, moves its whole bursts, moves what is left over, and signals an
event.

`Program.measure` is the size of the program, and `Program.write` stores it at
the start of a buffer, which stays as it is when the program does not fit.
-/

namespace CyclicDma

/-- Move one burst. A peripheral is waited for first. -/
def Direction.moveBurst : Direction → List Instruction
  | memoryToMemory => [.load .always, .store .always]
  | memoryToPeripheral peripheral =>
      [.waitForPeripheral .burst peripheral, .load .always, .storePeripheral .burst peripheral]
  | peripheralToMemory peripheral =>
      [.waitForPeripheral .burst peripheral, .loadPeripheral .burst peripheral, .store .always]

/-- Drop the requests that a peripheral made so far. -/
def Direction.flush (direction : Direction) : List Instruction :=
  direction.peripheral?.toList.map .flushPeripheral

namespace Transfer

/-- Move one burst of another shape. -/
def moveShort (transfer : Transfer) (size length : UInt32) : List Instruction :=
  .move .control (transfer.control.burst size length).raw :: transfer.direction.moveBurst

/-- Move the bytes of a period that do not fill a burst: whole beats in one
short burst, then single bytes in another. The control word is restored
afterwards. -/
def moveRemainder (transfer : Transfer) : List Instruction :=
  let size := transfer.control.burstSize
  let beats := transfer.remainderBytes / size
  let tail := transfer.remainderBytes % size
  if transfer.remainderBytes = 0 then []
  else
    (if beats = 0 then [] else transfer.moveShort size beats) ++
      (if tail = 0 then [] else transfer.moveShort 1 tail) ++
      [.move .control transfer.control.raw]

/-- One period, ending with its event. -/
def period (transfer : Transfer) (event : UInt8) : Code :=
  .prepend transfer.direction.flush <|
    .loop .one transfer.bursts.toNat (.prepend transfer.direction.moveBurst .nil) <|
      .prepend (transfer.moveRemainder ++ [.signalEvent event]) .nil

/-- One pass over the ring. -/
def pass (transfer : Transfer) (event : UInt8) : Code :=
  .prepend [.move .source transfer.source, .move .destination transfer.destination] <|
    .loop .zero transfer.periods.toNat (transfer.period event) .nil

/-- The program for the transfer, signalling the event after each period. -/
def program (transfer : Transfer) (event : UInt8) : List Instruction :=
  let pass := (transfer.pass event).assemble
  .move .control transfer.control.raw :: pass ++
    [.loopForever .one (UInt8.ofNat (Code.bytesOf pass)), .finish]

end Transfer

namespace Program

/-- The bytes of a program around its pass: loading the control word, the jump
back and the end. -/
def overhead : Nat := 9

/-- The size of the program for the transfer, in bytes. There is no program for
an empty transfer, nor for one whose loops are longer than a jump. -/
def measure (transfer : Transfer) (event : UInt8) : Except DmaError Nat :=
  if transfer.periods = 0 ∨ transfer.periodBytes = 0 then .error .invalidTransfer
  else
    match (transfer.pass event).size? with
    | none => .error .programTooLarge
    | some pass =>
        if pass ≤ Code.maxJump then .ok (pass + overhead) else .error .programTooLarge

/-- Store the program for the transfer at the start of a buffer. Returns the
size of the program and the new content of the buffer. -/
def write (transfer : Transfer) (event : UInt8) (buffer : List UInt8) :
    Except DmaError (Nat × List UInt8) :=
  match measure transfer event with
  | .error error => .error error
  | .ok size =>
      if size ≤ buffer.length then
        .ok (size, Instruction.encodeAll (transfer.program event) ++ buffer.drop size)
      else .error .programTooLarge

end Program

end CyclicDma
