import CyclicDma.Instruction
import CyclicDma.LittleEndian

/-! # Reading instructions back

The opcode byte of an instruction fixes which operands follow. `decode?`
recognises the instruction at the start of a byte string, and `disassemble`
reads instructions one after the other until one does not decode. Operand bits
that carry no meaning are ignored.
-/

namespace CyclicDma

open LittleEndian

/-- What follows an opcode, and the instruction that it makes. -/
inductive OperandLayout where
  | bare (instruction : Instruction)
  /-- A peripheral or event number, in the upper five bits of a byte. -/
  | number (make : UInt8 → Instruction)
  | byte (make : UInt8 → Instruction)
  | halfword (make : UInt16 → Instruction)
  /-- A byte and a word. Not every byte is allowed. -/
  | byteAndWord (make : UInt8 → UInt32 → Option Instruction)

/-- The register of a move with the given operand byte. -/
def MoveTarget.ofOperand? : UInt8 → Option MoveTarget
  | 0 => some source
  | 1 => some control
  | 2 => some destination
  | _ => none

namespace Instruction

/-- The iterations of a loop whose operand is `count`. -/
def iterationsOf (count : UInt8) : UInt16 :=
  count.toUInt16 + 1

/-- The flag stored in bit 1 of a byte. -/
def flagOf (byte : UInt8) : Bool :=
  byte &&& 0b10 != 0

end Instruction

namespace OperandLayout

open Instruction

/-- The operands that follow an opcode. Unknown opcodes have none. -/
def ofOpcode? : UInt8 → Option OperandLayout
  | 0x00 => some (bare finish)
  | 0x01 => some (bare kill)
  | 0x04 => some (bare (load .always))
  | 0x05 => some (bare (load .single))
  | 0x07 => some (bare (load .burst))
  | 0x08 => some (bare (store .always))
  | 0x09 => some (bare (store .single))
  | 0x0B => some (bare (store .burst))
  | 0x0C => some (bare storeZero)
  | 0x12 => some (bare readBarrier)
  | 0x13 => some (bare writeBarrier)
  | 0x18 => some (bare nop)
  | 0x20 => some (byte fun count => loop .zero (iterationsOf count))
  | 0x22 => some (byte fun count => loop .one (iterationsOf count))
  | 0x25 => some (number (loadPeripheral .single))
  | 0x27 => some (number (loadPeripheral .burst))
  | 0x28 => some (byte (loopForever .zero))
  | 0x29 => some (number (storePeripheral .single))
  | 0x2B => some (number (storePeripheral .burst))
  | 0x2C => some (byte (loopForever .one))
  | 0x30 => some (number (waitForPeripheral .single))
  | 0x31 => some (number (waitForPeripheral .peripheral))
  | 0x32 => some (number (waitForPeripheral .burst))
  | 0x34 => some (number signalEvent)
  | 0x35 => some (number flushPeripheral)
  | 0x36 => some (byte fun operand => waitForEvent (operand >>> 3) (flagOf operand))
  | 0x38 => some (byte (loopEnd .zero .always))
  | 0x39 => some (byte (loopEnd .zero .single))
  | 0x3B => some (byte (loopEnd .zero .burst))
  | 0x3C => some (byte (loopEnd .one .always))
  | 0x3D => some (byte (loopEnd .one .single))
  | 0x3F => some (byte (loopEnd .one .burst))
  | 0x54 => some (halfword (addHalfword .source))
  | 0x56 => some (halfword (addHalfword .destination))
  | 0xA0 => some (byteAndWord fun channel address => some (go (channel &&& 0x7) address false))
  | 0xA2 => some (byteAndWord fun channel address => some (go (channel &&& 0x7) address true))
  | 0xBC => some (byteAndWord fun target value =>
      (MoveTarget.ofOperand? target).map fun target => move target value)
  | _ => none

/-- The instruction whose operands start the given bytes. -/
def read? : OperandLayout → List UInt8 → Option Instruction
  | bare instruction, _ => some instruction
  | number make, operand :: _ => some (make (operand >>> 3))
  | byte make, operand :: _ => some (make operand)
  | halfword make, low :: high :: _ => some (make (joinHalfword low high))
  | byteAndWord make, operand :: first :: second :: third :: fourth :: _ =>
      make operand (joinWord first second third fourth)
  | _, _ => none

end OperandLayout

namespace Instruction

/-- The instruction at the start of the bytes. An unknown opcode, a move to an
unknown register, or a missing operand gives nothing. -/
def decode? : List UInt8 → Option Instruction
  | [] => none
  | opcode :: operands => (OperandLayout.ofOpcode? opcode).bind (·.read? operands)

/-- The instructions of the bytes with their offsets, the first of which is
`offset`. -/
def disassembleFrom (offset : Nat) (bytes : List UInt8) : List (Nat × Instruction) :=
  match bytes with
  | [] => []
  | opcode :: operands =>
      match decode? (opcode :: operands) with
      | none => []
      | some instruction =>
          (offset, instruction) ::
            disassembleFrom (offset + instruction.size)
              ((opcode :: operands).drop instruction.size)
termination_by bytes.length
decreasing_by
  have := instruction.size_pos
  simp only [List.length_drop, List.length_cons]
  omega

/-- The instructions of a program with their offsets, up to the first bytes that
do not decode. -/
def disassemble (program : List UInt8) : List (Nat × Instruction) :=
  disassembleFrom 0 program

end Instruction

end CyclicDma
