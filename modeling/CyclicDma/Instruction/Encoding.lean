import CyclicDma.Instruction
import CyclicDma.LittleEndian

/-! # The bytes of an instruction

An instruction is an opcode byte followed by its operands. Peripheral and event
numbers sit in the upper five bits of their byte, a channel number in the lower
three, and a loop stores one less than its iterations. A number that is too
large for its place loses its upper bits.
-/

namespace CyclicDma

open LittleEndian

/-- The two lowest opcode bits of a conditional instruction. -/
def Condition.bits : Condition → UInt8
  | always => 0b00
  | single => 0b01
  | burst => 0b11

/-- The opcode bit that tells a burst request from a single one. -/
def RequestKind.bits : RequestKind → UInt8
  | single => 0b00
  | burst => 0b10

/-- The two lowest opcode bits of a wait for a peripheral. -/
def WaitKind.bits : WaitKind → UInt8
  | single => 0b00
  | peripheral => 0b01
  | burst => 0b10

/-- The opcode bit that selects the counter at the start of a loop. -/
def LoopCounter.openingBits : LoopCounter → UInt8
  | zero => 0b00
  | one => 0b10

/-- The opcode bit that selects the counter at the end of a loop. -/
def LoopCounter.closingBits : LoopCounter → UInt8
  | zero => 0b000
  | one => 0b100

/-- The operand byte that selects the register of a move. -/
def MoveTarget.operand : MoveTarget → UInt8
  | source => 0
  | control => 1
  | destination => 2

/-- The opcode bit that selects the register of an addition. -/
def AddressRegister.bits : AddressRegister → UInt8
  | source => 0b00
  | destination => 0b10

namespace Instruction

/-- The operand byte of a peripheral or event number. -/
def numberOperand (number : UInt8) : UInt8 :=
  number <<< 3

/-- The bit that is set when the flag is, as opcodes and operands store it. -/
def flagBit (flag : Bool) : UInt8 :=
  if flag then 0b10 else 0b00

/-- The operand byte of a loop, one less than its iterations. -/
def iterationsOperand (iterations : UInt16) : UInt8 :=
  (iterations - 1).toUInt8

/-- The bytes of the instruction in microcode. -/
def encode : Instruction → List UInt8
  | finish => [0x00]
  | kill => [0x01]
  | nop => [0x18]
  | readBarrier => [0x12]
  | writeBarrier => [0x13]
  | load condition => [0x04 ||| condition.bits]
  | store condition => [0x08 ||| condition.bits]
  | storeZero => [0x0C]
  | loadPeripheral request peripheral => [0x25 ||| request.bits, numberOperand peripheral]
  | storePeripheral request peripheral => [0x29 ||| request.bits, numberOperand peripheral]
  | waitForPeripheral wait peripheral => [0x30 ||| wait.bits, numberOperand peripheral]
  | flushPeripheral peripheral => [0x35, numberOperand peripheral]
  | loop counter iterations => [0x20 ||| counter.openingBits, iterationsOperand iterations]
  | loopEnd counter condition jump =>
      [0x38 ||| counter.closingBits ||| condition.bits, jump]
  | loopForever counter jump => [0x28 ||| counter.closingBits, jump]
  | move target value => 0xBC :: target.operand :: splitWord value
  | addHalfword register value => (0x54 ||| register.bits) :: splitHalfword value
  | signalEvent event => [0x34, numberOperand event]
  | waitForEvent event invalidate => [0x36, numberOperand event ||| flagBit invalidate]
  | go channel address nonsecure =>
      (0xA0 ||| flagBit nonsecure) :: (channel &&& 0x7) :: splitWord address

theorem length_encode (instruction : Instruction) :
    instruction.encode.length = instruction.size := by
  cases instruction <;> rfl

/-- Store the instruction at the start of a buffer. A buffer that cannot hold
it gives nothing. -/
def encodeInto? (instruction : Instruction) (buffer : List UInt8) : Option (List UInt8) :=
  if instruction.size ≤ buffer.length then
    some (instruction.encode ++ buffer.drop instruction.size)
  else
    none

/-- The bytes of several instructions, back to back. -/
def encodeAll (instructions : List Instruction) : List UInt8 :=
  instructions.flatMap encode

end Instruction

end CyclicDma
