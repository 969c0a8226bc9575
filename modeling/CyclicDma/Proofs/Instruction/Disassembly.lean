import CyclicDma.Proofs.Instruction.RoundTrip

/-! # Disassembling whole programs

The bytes of an instruction tell where it ends, so instructions that stand back
to back are told apart again, whatever bytes follow them. Each comes back at the
sum of the sizes before it. Its operands come back with the bits that their
places have, and unchanged where they fit.
-/

namespace CyclicDma

namespace Instruction

/-! ## Operands that fit -/

/-- The operands fit their places: peripheral and event numbers have five bits,
channel numbers three, and a loop runs between 1 and 256 times. -/
def Fits : Instruction → Prop
  | loadPeripheral _ number | storePeripheral _ number | waitForPeripheral _ number
  | flushPeripheral number | signalEvent number | waitForEvent number _ => number < 32
  | loop _ iterations => 1 ≤ iterations ∧ iterations ≤ 256
  | go channel _ _ => channel < 8
  | _ => True

theorem mod_eq_self_iff_lt (number bound : UInt8) (hbound : 0 < bound) :
    number % bound = number ↔ number < bound := by
  rw [← UInt8.toNat_inj, UInt8.toNat_mod, UInt8.lt_iff_toNat_lt]
  exact Nat.mod_eq_iff_lt (UInt8.lt_iff_toNat_lt.mp hbound).ne'

/-- A loop of no iterations at all is stored as one of 256. -/
theorem toNat_reduced_iterations (iterations : UInt16) :
    (((iterations - 1) % 256 + 1).toNat : Int) = (iterations.toNat - 1 : Int) % 256 + 1 := by
  have hlt := iterations.toNat_lt
  rw [UInt16.toNat_add, UInt16.toNat_mod, UInt16.toNat_sub]
  change (((2 ^ 16 - 1 + iterations.toNat) % 2 ^ 16 % 256 + 1) % 2 ^ 16 : Nat) = (_ : Int)
  omega

theorem reduced_iterations_eq_iff (iterations : UInt16) :
    (iterations - 1) % 256 + 1 = iterations ↔ 1 ≤ iterations ∧ iterations ≤ 256 := by
  have hreduced := toNat_reduced_iterations iterations
  rw [← UInt16.toNat_inj, UInt16.le_iff_toNat_le, UInt16.le_iff_toNat_le]
  change _ ↔ 1 ≤ iterations.toNat ∧ iterations.toNat ≤ 256
  omega

theorem inRange_iff_fits (instruction : Instruction) :
    instruction.InRange ↔ instruction.Fits := by
  cases instruction <;>
    simp [InRange, normalize, Fits, mod_eq_self_iff_lt, reduced_iterations_eq_iff]

instance (instruction : Instruction) : Decidable instruction.Fits :=
  decidable_of_iff _ (inRange_iff_fits instruction)

/-! ## One instruction -/

@[simp]
theorem size_normalize (instruction : Instruction) :
    instruction.normalize.size = instruction.size := by
  cases instruction <;> rfl

theorem isSome_encodeInto? (instruction : Instruction) (buffer : List UInt8) :
    (instruction.encodeInto? buffer).isSome ↔ instruction.size ≤ buffer.length := by
  unfold encodeInto?
  split
  next hfits => simp [hfits]
  next hshort => simp [hshort]

/-- An instruction is stored in the first bytes of a buffer that can hold it,
and in no others. -/
theorem encodeInto?_eq_some {instruction : Instruction} {buffer written : List UInt8} :
    instruction.encodeInto? buffer = some written ↔
      written.length = buffer.length ∧ written.take instruction.size = instruction.encode ∧
        written.drop instruction.size = buffer.drop instruction.size := by
  have hencode := length_encode instruction
  unfold encodeInto?
  split
  next hfits =>
    constructor
    · rintro ⟨⟩
      refine ⟨?_, ?_, ?_⟩
      · rw [List.length_append, List.length_drop, hencode]
        omega
      · rw [← hencode, List.take_left]
      · rw [← hencode, List.drop_left]
    · rintro ⟨-, htake, hdrop⟩
      rw [← htake, ← hdrop, List.take_append_drop]
  next hshort =>
    refine iff_of_false nofun ?_
    rintro ⟨hlength, htake, -⟩
    have := congrArg List.length htake
    rw [List.length_take, hencode] at this
    omega

/-- Disassembling reads an instruction off its bytes and goes on after them. -/
theorem disassembleFrom_encode_append (offset : Nat) (instruction : Instruction)
    (rest : List UInt8) :
    disassembleFrom offset (instruction.encode ++ rest) =
      (offset, instruction.normalize) :: disassembleFrom (offset + instruction.size) rest := by
  have hdecode := decode?_encode_append instruction rest
  have hdrop : (instruction.encode ++ rest).drop instruction.size = rest := by
    rw [← length_encode, List.drop_left]
  cases hbytes : instruction.encode ++ rest with
  | nil =>
      rw [hbytes] at hdecode
      cases hdecode
  | cons opcode operands =>
      rw [hbytes] at hdecode hdrop
      rw [disassembleFrom, hdecode]
      simp only [size_normalize, hdrop]

/-- Offsets are counted from where the disassembly begins. -/
theorem disassembleFrom_eq_map (offset : Nat) (bytes : List UInt8) :
    disassembleFrom offset bytes =
      (disassemble bytes).map fun item => (offset + item.1, item.2) := by
  suffices hshift : ∀ start, disassembleFrom (offset + start) bytes =
      (disassembleFrom start bytes).map fun item => (offset + item.1, item.2) from hshift 0
  intro start
  induction start, bytes using disassembleFrom.induct with
  | case1 start => simp [disassembleFrom]
  | case2 start opcode operands hnone => simp [disassembleFrom, hnone]
  | case3 start opcode operands instruction hsome ih =>
      rw [disassembleFrom, disassembleFrom, hsome]
      simp only [List.map_cons, Nat.add_assoc, ih]

/-! ## Programs -/

/-- The number of bytes of instructions that stand back to back. -/
def totalSize (instructions : List Instruction) : Nat :=
  (instructions.map size).sum

@[simp]
theorem totalSize_nil : totalSize [] = 0 := rfl

@[simp]
theorem totalSize_cons (instruction : Instruction) (rest : List Instruction) :
    totalSize (instruction :: rest) = instruction.size + totalSize rest := by
  simp [totalSize]

/-- Instructions that stand back to back from an offset on are read one after
the other, and what follows them is read as if they were not there. -/
theorem disassembleFrom_encodeAll_append (offset : Nat) (instructions : List Instruction)
    (trailing : List UInt8) :
    disassembleFrom offset (encodeAll instructions ++ trailing) =
      (instructions.mapIdx fun index instruction =>
        (offset + totalSize (instructions.take index), instruction.normalize)) ++
        disassembleFrom (offset + totalSize instructions) trailing := by
  induction instructions generalizing offset with
  | nil => rfl
  | cons instruction rest ih =>
      rw [encodeAll_cons, List.append_assoc, disassembleFrom_encode_append, ih,
        List.mapIdx_cons]
      simp [Nat.add_assoc]

/-- Disassembling undoes encoding. Whatever the operands, and whatever bytes
follow, instructions that were encoded back to back are read in order, each at
the sum of the sizes before it and with its operands reduced to their places;
operands that fit are read as they were. An instruction occupies between one and
six bytes, which is the length of its encoding and of what is read from there,
and it is stored in that many bytes at the start of a buffer that can hold it,
the others staying as they were. -/
theorem disassemble_encodeAll_append (instructions : List Instruction)
    (trailing : List UInt8) :
    disassemble (encodeAll instructions ++ trailing) =
        (instructions.mapIdx fun index instruction =>
          (totalSize (instructions.take index), instruction.normalize)) ++
          (disassemble trailing).map (fun item => (totalSize instructions + item.1, item.2)) ∧
      ((∀ instruction ∈ instructions, instruction.Fits) →
        disassemble (encodeAll instructions ++ trailing) =
          (instructions.mapIdx fun index instruction =>
            (totalSize (instructions.take index), instruction)) ++
            (disassemble trailing).map fun item => (totalSize instructions + item.1, item.2)) ∧
      ∀ instruction : Instruction,
        1 ≤ instruction.size ∧ instruction.size ≤ 6 ∧
        instruction.encode.length = instruction.size ∧
        (∀ following,
          (decode? (instruction.encode ++ following)).map size = some instruction.size) ∧
        (∀ buffer, (instruction.encodeInto? buffer).isSome ↔
          instruction.size ≤ buffer.length) ∧
        ∀ buffer written, instruction.encodeInto? buffer = some written ↔
          written.length = buffer.length ∧ written.take instruction.size = instruction.encode ∧
            written.drop instruction.size = buffer.drop instruction.size := by
  have hread : disassemble (encodeAll instructions ++ trailing) =
      (instructions.mapIdx fun index instruction =>
        (totalSize (instructions.take index), instruction.normalize)) ++
        (disassemble trailing).map fun item => (totalSize instructions + item.1, item.2) := by
    rw [disassemble, disassembleFrom_encodeAll_append, disassembleFrom_eq_map]
    simp only [Nat.zero_add]
  refine ⟨hread, ?_, ?_⟩
  · intro hfit
    rw [hread, List.append_left_inj, List.mapIdx_eq_mapIdx_iff]
    intro index hindex
    have hrange := (inRange_iff_fits _).mpr (hfit _ (List.getElem_mem hindex))
    rw [hrange]
  · intro instruction
    refine ⟨instruction.size_pos, instruction.size_le_six, instruction.length_encode, ?_, ?_,
      fun _ _ => encodeInto?_eq_some⟩
    · intro following
      rw [decode?_encode_append, Option.map_some, size_normalize]
    · exact isSome_encodeInto? instruction

/-- The first program fits its places and is followed by the first byte of a
move; the second waits for peripheral 37 in a loop of no iterations and starts
channel 9. -/
theorem disassemble_encodeAll_append_peripheral :
    disassemble (encodeAll [loop .zero 256, waitForPeripheral .burst 5,
        loadPeripheral .burst 5, store .single, loopEnd .zero .always 5, finish] ++ [0xBC]) =
      [(0, loop .zero 256), (2, waitForPeripheral .burst 5), (4, loadPeripheral .burst 5),
        (6, store .single), (7, loopEnd .zero .always 5), (9, finish)] ∧
    disassemble (encodeAll [loop .one 0, waitForPeripheral .peripheral 37,
        go 9 0x80001000 true]) =
      [(0, loop .one 256), (2, waitForPeripheral .peripheral 5), (4, go 1 0x80001000 true)] := by
  constructor
  · have hcut : disassemble [0xBC] = [] := by simp [disassemble, disassembleFrom, decode?,
      OperandLayout.ofOpcode?, OperandLayout.read?]
    rw [(disassemble_encodeAll_append _ _).2.1 (by decide), hcut]
    rfl
  · have hnone : disassemble [] = [] := by simp [disassemble, disassembleFrom]
    have hread := (disassemble_encodeAll_append
      [loop .one 0, waitForPeripheral .peripheral 37, go 9 0x80001000 true] []).1
    rw [List.append_nil, hnone] at hread
    rw [hread]
    rfl

end Instruction

end CyclicDma
