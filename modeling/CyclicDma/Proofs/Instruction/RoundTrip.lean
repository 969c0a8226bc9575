import Mathlib
import CyclicDma.Instruction.Decoding
import CyclicDma.Instruction.Encoding

/-! # Reading back what was written

Operands keep only the bits that their place in the encoding has. Decoding the
bytes of an instruction, whatever follows them, gives the instruction with its
operands reduced to these bits.
-/

namespace CyclicDma

open LittleEndian

namespace Instruction

/-! ## Operand bytes -/

theorem numberOperand_shiftRight (number : UInt8) : numberOperand number >>> 3 = number % 32 := by
  apply UInt8.toNat_inj.mp
  simp [numberOperand, Nat.shiftRight_eq_div_pow, Nat.shiftLeft_eq]
  omega

theorem iterationsOf_iterationsOperand (iterations : UInt16) :
    iterationsOf (iterationsOperand iterations) = (iterations - 1) % 256 + 1 := by
  have hbyte : ((iterations - 1).toUInt8).toUInt16 = (iterations - 1) % 256 := by
    apply UInt16.toNat_inj.mp
    rw [UInt8.toNat_toUInt16, UInt16.toNat_toUInt8, UInt16.toNat_mod]
    rfl
  rw [iterationsOf, iterationsOperand, hbyte]

theorem and_seven (channel : UInt8) : channel &&& 7 = channel % 8 := by
  apply UInt8.toNat_inj.mp
  rw [UInt8.toNat_and, UInt8.toNat_mod]
  exact Nat.and_two_pow_sub_one_eq_mod channel.toNat 3

theorem and_seven_idem (channel : UInt8) : channel &&& 7 &&& 7 = channel % 8 := by
  rw [UInt8.and_assoc, ← and_seven]
  rfl

/-- The flag sits below the bits of the number. -/
theorem eventOperand_shiftRight (event : UInt8) (invalidate : Bool) :
    (numberOperand event ||| flagBit invalidate) >>> 3 = event % 32 := by
  have hflag : (flagBit invalidate).toNat >>> 3 = 0 := by cases invalidate <;> rfl
  rw [← numberOperand_shiftRight]
  apply UInt8.toNat_inj.mp
  rw [UInt8.toNat_shiftRight, UInt8.toNat_or, Nat.shiftRight_or_distrib, UInt8.toNat_shiftRight]
  change _ ||| (flagBit invalidate).toNat >>> 3 = _
  rw [hflag, Nat.or_zero]

theorem flagOf_eventOperand (event : UInt8) (invalidate : Bool) :
    flagOf (numberOperand event ||| flagBit invalidate) = invalidate := by
  -- there are few enough operand bytes to try them all
  have hbytes : ∀ byte < 256, ∀ flag : Bool,
      flagOf (numberOperand (.ofNat byte) ||| flagBit flag) = flag := by
    decide +kernel
  simpa using hbytes event.toNat event.toNat_lt invalidate

/-! ## Instructions -/

/-- The instruction with its operands reduced to the bits that their places in
the encoding have. -/
def normalize : Instruction → Instruction
  | loadPeripheral request peripheral => loadPeripheral request (peripheral % 32)
  | storePeripheral request peripheral => storePeripheral request (peripheral % 32)
  | waitForPeripheral wait peripheral => waitForPeripheral wait (peripheral % 32)
  | flushPeripheral peripheral => flushPeripheral (peripheral % 32)
  | loop counter iterations => loop counter ((iterations - 1) % 256 + 1)
  | signalEvent event => signalEvent (event % 32)
  | waitForEvent event invalidate => waitForEvent (event % 32) invalidate
  | go channel address nonsecure => go (channel % 8) address nonsecure
  | instruction => instruction

/-- The operands fit their places in the encoding. -/
def InRange (instruction : Instruction) : Prop :=
  instruction.normalize = instruction

instance (instruction : Instruction) : Decidable instruction.InRange :=
  inferInstanceAs (Decidable (_ = _))

/-- Decoding gives the instruction whose bytes stand at the start, and does not
look at what follows them. -/
theorem decode?_encode_append (instruction : Instruction) (rest : List UInt8) :
    decode? (instruction.encode ++ rest) = some instruction.normalize := by
  cases instruction with
  | finish | kill | nop | readBarrier | writeBarrier | storeZero => rfl
  | load condition | store condition => cases condition <;> rfl
  | loadPeripheral request peripheral | storePeripheral request peripheral =>
      rw [normalize, ← numberOperand_shiftRight]
      cases request <;> rfl
  | waitForPeripheral wait peripheral =>
      rw [normalize, ← numberOperand_shiftRight]
      cases wait <;> rfl
  | flushPeripheral number | signalEvent number =>
      rw [normalize, ← numberOperand_shiftRight]
      rfl
  | loop counter iterations =>
      rw [normalize, ← iterationsOf_iterationsOperand]
      cases counter <;> rfl
  | loopEnd counter condition jump => cases counter <;> cases condition <;> rfl
  | loopForever counter jump => cases counter <;> rfl
  | move target value =>
      cases target <;>
        exact congrArg (fun word => some (move _ word)) (joinWord_split value)
  | addHalfword register value =>
      cases register <;>
        exact congrArg (fun halfword => some (addHalfword _ halfword)) (joinHalfword_split value)
  | waitForEvent event invalidate =>
      rw [normalize, ← eventOperand_shiftRight event invalidate]
      exact congrArg (fun flag => some (waitForEvent _ flag)) (flagOf_eventOperand event invalidate)
  | go channel address nonsecure =>
      rw [normalize, ← and_seven_idem]
      cases nonsecure <;>
        exact congrArg (fun word => some (go (channel &&& 7 &&& 7) word _)) (joinWord_split address)

theorem decode?_encode_append_of_inRange {instruction : Instruction}
    (hrange : instruction.InRange) (rest : List UInt8) :
    decode? (instruction.encode ++ rest) = some instruction := by
  rw [decode?_encode_append, hrange]

@[simp]
theorem encodeAll_append (first second : List Instruction) :
    encodeAll (first ++ second) = encodeAll first ++ encodeAll second :=
  List.flatMap_append

@[simp]
theorem encodeAll_cons (instruction : Instruction) (rest : List Instruction) :
    encodeAll (instruction :: rest) = instruction.encode ++ encodeAll rest :=
  List.flatMap_cons

end Instruction

end CyclicDma
