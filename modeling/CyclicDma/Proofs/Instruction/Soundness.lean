import CyclicDma.Proofs.Instruction.Disassembly
import CyclicDma.Proofs.Program.Assembler

/-! # Decoding any bytes

What decodes need not have been encoded before. Whatever the bytes, an
instruction that is read off their start occupies bytes that are there, has
operands that fit their places, and is encoded as the bytes it was read from,
but for the bits that decoding ignores. Bytes after it are not looked at, and no
byte of it can be missing. Disassembling follows from this: it takes one
instruction after the other off the bytes until one does not decode.
-/

namespace CyclicDma

open LittleEndian

namespace LittleEndian

theorem splitHalfword_joinHalfword (low high : UInt8) :
    splitHalfword (joinHalfword low high) = [low, high] := by
  have hlow := low.toNat_lt
  have hhigh := high.toNat_lt
  simp [splitHalfword, joinHalfword, ← UInt8.toNat_inj, Nat.shiftLeft_eq,
    Nat.shiftRight_eq_div_pow]
  omega

theorem splitWord_joinWord (first second third fourth : UInt8) :
    splitWord (joinWord first second third fourth) = [first, second, third, fourth] := by
  have hfirst := first.toNat_lt
  have hsecond := second.toNat_lt
  have hthird := third.toNat_lt
  have hfourth := fourth.toNat_lt
  simp [splitWord, joinWord, ← UInt8.toNat_inj, Nat.shiftLeft_eq, Nat.shiftRight_eq_div_pow]
  omega

end LittleEndian

namespace Instruction

/-! ## Operand bytes -/

/-- Bytes with the same bits are equal. -/
theorem eq_of_getElem_eq {byte other : UInt8}
    (hbits : ∀ index (_ : index < 8), byte.toBitVec[index] = other.toBitVec[index]) :
    byte = other :=
  UInt8.toBitVec_inj.mp (BitVec.eq_of_getElem_eq hbits)

theorem numberOperand_of_shiftRight (byte : UInt8) :
    byte >>> 3 < 32 ∧ numberOperand (byte >>> 3) = byte &&& ~~~0b111 := by
  refine ⟨?_, eq_of_getElem_eq fun index hindex => ?_⟩
  · have hbyte := byte.toNat_lt
    rw [UInt8.lt_iff_toNat_lt, UInt8.toNat_shiftRight, Nat.shiftRight_eq_div_pow]
    change byte.toNat / 8 < 32
    omega
  · interval_cases index <;> simp [numberOperand]

theorem flagBit_flagOf (byte : UInt8) : flagBit (flagOf byte) = byte &&& 0b10 := by
  have hbit : byte &&& 0b10 = 0 ∨ byte &&& 0b10 = 0b10 := by
    cases hset : byte.toBitVec[1] with
    | false =>
        refine .inl (eq_of_getElem_eq fun index hindex => ?_)
        interval_cases index <;> simp [hset]
    | true =>
        refine .inr (eq_of_getElem_eq fun index hindex => ?_)
        interval_cases index <;> simp [hset]
  rcases hbit with hclear | hset
  · rw [flagOf, hclear]
    rfl
  · rw [flagOf, hset]
    rfl

theorem eventOperand_of_shiftRight (byte : UInt8) :
    numberOperand (byte >>> 3) ||| flagBit (flagOf byte) = byte &&& ~~~0b101 := by
  rw [flagBit_flagOf, (numberOperand_of_shiftRight byte).2]
  refine eq_of_getElem_eq fun index hindex => ?_
  interval_cases index <;> simp

theorem iterationsOperand_iterationsOf (byte : UInt8) :
    (1 ≤ iterationsOf byte ∧ iterationsOf byte ≤ 256) ∧
      iterationsOperand (iterationsOf byte) = byte := by
  have hbyte := byte.toNat_lt
  have hcount : (iterationsOf byte).toNat = byte.toNat + 1 := by
    rw [iterationsOf, UInt16.toNat_add, UInt8.toNat_toUInt16]
    exact Nat.mod_eq_of_lt (by change byte.toNat + 1 < 65536; omega)
  refine ⟨⟨?_, ?_⟩, ?_⟩
  · rw [UInt16.le_iff_toNat_le, hcount]
    exact Nat.le_add_left ..
  · rw [UInt16.le_iff_toNat_le, hcount]
    exact hbyte
  · rw [iterationsOperand, iterationsOf, UInt16.add_sub_cancel]
    simp

theorem channelOperand_and_seven (byte : UInt8) :
    byte &&& 7 < 8 ∧ byte &&& 7 &&& 7 = byte &&& ~~~0b11111000 := by
  refine ⟨?_, ?_⟩
  · rw [and_seven, UInt8.lt_iff_toNat_lt, UInt8.toNat_mod]
    exact Nat.mod_lt _ (by decide)
  · rw [UInt8.and_assoc]
    rfl

theorem operand_of_ofOperand? {byte : UInt8} {target : MoveTarget}
    (htarget : MoveTarget.ofOperand? byte = some target) : target.operand = byte := by
  unfold MoveTarget.ofOperand? at htarget
  split at htarget <;> cases htarget <;> rfl

theorem and_not_zero (byte : UInt8) : byte &&& ~~~0 = byte := by
  simp

/-- The bits that decoding ignores, all of them in the first operand byte: the
lower three where a peripheral or event number sits above them, but for the flag
of a wait, and the upper five where a channel number sits below them. -/
def ignoredBits : Instruction → UInt8
  | loadPeripheral .. | storePeripheral .. | waitForPeripheral .. | flushPeripheral _
  | signalEvent _ => 0b111
  | waitForEvent .. => 0b101
  | go .. => 0b11111000
  | _ => 0

/-- The bytes with the ignored bits of the instruction cleared. -/
def clearIgnored (instruction : Instruction) (bytes : List UInt8) : List UInt8 :=
  bytes.modify 1 (· &&& ~~~instruction.ignoredBits)

end Instruction

/-! ## Operand layouts -/

namespace OperandLayout

open Instruction

/-- The number of operand bytes. -/
def width : OperandLayout → Nat
  | bare _ => 0
  | number _ | byte _ => 1
  | halfword _ => 2
  | byteAndWord _ => 5

/-- The instructions that the layout makes are those that are written with the
opcode, and their operands fit. -/
def WrittenWith (opcode : UInt8) : OperandLayout → Prop
  | bare instruction => instruction.Fits ∧ instruction.encode = [opcode]
  | number make => ∀ operand, operand < 32 →
      (make operand).Fits ∧ (make operand).ignoredBits = 0b111 ∧
        (make operand).encode = [opcode, numberOperand operand]
  | byte make => ∀ operand, (make operand).Fits ∧
      (make operand).encode = [opcode, operand &&& ~~~(make operand).ignoredBits]
  | halfword make => ∀ value, (make value).Fits ∧ (make value).ignoredBits = 0 ∧
      (make value).encode = opcode :: splitHalfword value
  | byteAndWord make => ∀ operand value instruction, make operand value = some instruction →
      instruction.Fits ∧
        instruction.encode =
          opcode :: (operand &&& ~~~instruction.ignoredBits) :: splitWord value

theorem writtenWith_loop (opcode : UInt8) (counter : LoopCounter)
    (hopcode : opcode = 0x20 ||| counter.openingBits) :
    (byte fun count => loop counter (iterationsOf count)).WrittenWith opcode := by
  intro count
  have hcount := iterationsOperand_iterationsOf count
  refine ⟨hcount.1, ?_⟩
  simp only [encode, hcount.2, hopcode, ignoredBits, and_not_zero]

/-- The operand of a jump back is stored as it is. -/
theorem writtenWith_jump {opcode : UInt8} {make : UInt8 → Instruction}
    (hmake : ∀ jump, (make jump).Fits ∧ (make jump).ignoredBits = 0 ∧
      (make jump).encode = [opcode, jump]) :
    (byte make).WrittenWith opcode := by
  intro jump
  obtain ⟨hfits, hignored, hencode⟩ := hmake jump
  rw [hignored, and_not_zero]
  exact ⟨hfits, hencode⟩

theorem writtenWith_waitForEvent :
    (byte fun operand => waitForEvent (operand >>> 3) (flagOf operand)).WrittenWith 0x36 := by
  intro operand
  refine ⟨(numberOperand_of_shiftRight operand).1, ?_⟩
  rw [encode, eventOperand_of_shiftRight, ignoredBits]

theorem writtenWith_go (opcode : UInt8) (nonsecure : Bool)
    (hopcode : opcode = 0xA0 ||| flagBit nonsecure) :
    (byteAndWord fun channel address =>
      some (go (channel &&& 0x7) address nonsecure)).WrittenWith opcode := by
  rintro operand address instruction ⟨⟩
  have hoperand := channelOperand_and_seven operand
  refine ⟨hoperand.1, ?_⟩
  rw [encode, hoperand.2, hopcode, ignoredBits]

theorem writtenWith_move :
    (byteAndWord fun target value =>
      (MoveTarget.ofOperand? target).map fun target => move target value).WrittenWith 0xBC := by
  intro operand value instruction hmake
  obtain ⟨target, htarget, rfl⟩ := Option.map_eq_some_iff.mp hmake
  refine ⟨trivial, ?_⟩
  simp only [encode, operand_of_ofOperand? htarget, ignoredBits, and_not_zero]

/-- Each opcode that is known makes instructions that are written with it. -/
theorem writtenWith_of_ofOpcode? {opcode : UInt8} {layout : OperandLayout}
    (hlayout : ofOpcode? opcode = some layout) : layout.WrittenWith opcode := by
  unfold ofOpcode? at hlayout
  split at hlayout <;> cases hlayout
  -- one case for each opcode, and few kinds of operands
  all_goals
    first
    | exact ⟨trivial, rfl⟩
    | exact fun operand hlt => ⟨hlt, rfl, rfl⟩
    | exact fun value => ⟨trivial, rfl, rfl⟩
    | exact writtenWith_jump fun jump => ⟨trivial, rfl, rfl⟩
    | exact writtenWith_loop _ _ rfl
    | exact writtenWith_waitForEvent
    | exact writtenWith_go _ _ rfl
    | exact writtenWith_move

/-! ## Reading operands -/

variable {opcode : UInt8} {operands : List UInt8} {layout : OperandLayout}
  {instruction : Instruction}

/-- Operands that are not there cannot be read. -/
theorem width_le_of_read? (hread : layout.read? operands = some instruction) :
    layout.width ≤ operands.length := by
  unfold read? at hread
  split at hread
  case h_1 => exact Nat.zero_le _
  case h_6 => cases hread
  all_goals simp [width]

/-- No byte after the operands is looked at. -/
theorem read?_of_take_eq {other : List UInt8}
    (hsame : other.take layout.width = operands.take layout.width)
    (hread : layout.read? operands = some instruction) :
    layout.read? other = some instruction := by
  obtain ⟨rest, rfl⟩ : ∃ rest, other = operands.take layout.width ++ rest :=
    ⟨other.drop layout.width, by rw [← hsame, List.take_append_drop]⟩
  unfold read? at hread
  split at hread
  case h_6 => cases hread
  all_goals exact hread

/-- What is made of the operands is written with them, but for ignored bits. -/
theorem encode_of_read? (hwritten : layout.WrittenWith opcode)
    (hread : layout.read? operands = some instruction) :
    instruction.Fits ∧
      instruction.encode = instruction.clearIgnored (opcode :: operands.take layout.width) := by
  unfold read? at hread
  split at hread
  case h_1 made _ =>
    cases hread
    exact hwritten
  case h_2 make operand rest =>
    cases hread
    have hoperand := numberOperand_of_shiftRight operand
    obtain ⟨hfits, hignored, hencode⟩ := hwritten _ hoperand.1
    rw [clearIgnored, hencode, hignored, hoperand.2]
    exact ⟨hfits, rfl⟩
  case h_3 make operand rest =>
    cases hread
    exact hwritten operand
  case h_4 make low high rest =>
    cases hread
    obtain ⟨hfits, hignored, hencode⟩ := hwritten (joinHalfword low high)
    rw [clearIgnored, hencode, hignored, splitHalfword_joinHalfword]
    exact ⟨hfits, by simp [width]⟩
  case h_5 make operand first second third fourth rest =>
    obtain ⟨hfits, hencode⟩ := hwritten _ _ _ hread
    rw [hencode, splitWord_joinWord]
    exact ⟨hfits, rfl⟩
  case h_6 => cases hread

end OperandLayout

namespace Instruction

/-! ## One instruction -/

variable {bytes : List UInt8} {instruction : Instruction}

@[simp]
theorem length_clearIgnored (bytes : List UInt8) :
    (instruction.clearIgnored bytes).length = bytes.length :=
  List.length_modify ..

/-- What decodes is an opcode that is known, followed by operands that can be
read. -/
theorem exists_layout_of_decode? (hdecode : decode? bytes = some instruction) :
    ∃ opcode operands layout, bytes = opcode :: operands ∧
      OperandLayout.ofOpcode? opcode = some layout ∧
      layout.read? operands = some instruction ∧ instruction.size = layout.width + 1 := by
  cases bytes with
  | nil => cases hdecode
  | cons opcode operands =>
      obtain ⟨layout, hlayout, hread⟩ := Option.bind_eq_some_iff.mp hdecode
      have hencode := (OperandLayout.encode_of_read?
        (OperandLayout.writtenWith_of_ofOpcode? hlayout) hread).2
      have hsize := congrArg List.length hencode
      have hwidth := OperandLayout.width_le_of_read? hread
      rw [length_encode, length_clearIgnored, List.length_cons, List.length_take] at hsize
      exact ⟨opcode, operands, layout, rfl, hlayout, hread, by omega⟩

theorem size_le_length_of_decode? (hdecode : decode? bytes = some instruction) :
    instruction.size ≤ bytes.length := by
  obtain ⟨opcode, operands, layout, rfl, -, hread, hsize⟩ := exists_layout_of_decode? hdecode
  rw [hsize]
  exact Nat.succ_le_succ (OperandLayout.width_le_of_read? hread)

/-- Only the bytes of the instruction are looked at. -/
theorem decode?_of_take_eq {other : List UInt8}
    (hsame : other.take instruction.size = bytes.take instruction.size)
    (hdecode : decode? bytes = some instruction) : decode? other = some instruction := by
  obtain ⟨opcode, operands, layout, rfl, hlayout, hread, hsize⟩ :=
    exists_layout_of_decode? hdecode
  rw [hsize] at hsame
  cases other with
  | nil => cases hsame
  | cons first rest =>
      obtain ⟨rfl, hrest⟩ := List.cons_eq_cons.mp hsame
      exact Option.bind_eq_some_iff.mpr ⟨layout, hlayout, OperandLayout.read?_of_take_eq hrest hread⟩

/-- An instruction of which the end is missing does not decode. What decodes of
fewer bytes would decode of all of them. -/
theorem decode?_take_eq_none (hdecode : decode? bytes = some instruction) {count : Nat}
    (hcount : count < instruction.size) : decode? (bytes.take count) = none := by
  rw [Option.eq_none_iff_forall_not_mem]
  intro other hother
  have hlength := size_le_length_of_decode? hother
  have hall : decode? bytes = some other :=
    decode?_of_take_eq (by rw [List.take_take, Nat.min_eq_left]; simp at hlength; omega) hother
  obtain rfl : instruction = other := Option.some.inj (hdecode.symm.trans hall)
  rw [List.length_take] at hlength
  omega

/-- What was read is encoded as the bytes that it was read from, with the ignored
bits cleared. -/
theorem encode_of_decode? (hdecode : decode? bytes = some instruction) :
    instruction.Fits ∧
      instruction.encode = instruction.clearIgnored (bytes.take instruction.size) := by
  obtain ⟨opcode, operands, layout, rfl, hlayout, hread, hsize⟩ :=
    exists_layout_of_decode? hdecode
  rw [hsize, List.take_succ_cons]
  exact OperandLayout.encode_of_read? (OperandLayout.writtenWith_of_ofOpcode? hlayout) hread

/-- What the start of the bytes says about an instruction that was read off it. -/
structure ReadsAs (bytes : List UInt8) (instruction : Instruction) : Prop where
  one_le_size : 1 ≤ instruction.size
  size_le_six : instruction.size ≤ 6
  size_le_length : instruction.size ≤ bytes.length
  fits : instruction.Fits
  /-- What follows the instruction does not matter. -/
  of_take_eq : ∀ other, other.take instruction.size = bytes.take instruction.size →
    decode? other = some instruction
  /-- All of its bytes are needed. -/
  take_eq_none : ∀ count < instruction.size, decode? (bytes.take count) = none
  length_encode : instruction.encode.length = instruction.size
  decode?_encode : decode? instruction.encode = some instruction
  /-- It is written as it was read, but for the ignored bits. -/
  encode_eq : instruction.encode = instruction.clearIgnored (bytes.take instruction.size)

theorem readsAs_of_decode? (hdecode : decode? bytes = some instruction) :
    ReadsAs bytes instruction where
  one_le_size := instruction.size_pos
  size_le_six := instruction.size_le_six
  size_le_length := size_le_length_of_decode? hdecode
  fits := (encode_of_decode? hdecode).1
  of_take_eq _ hsame := decode?_of_take_eq hsame hdecode
  take_eq_none _ hcount := decode?_take_eq_none hdecode hcount
  length_encode := instruction.length_encode
  decode?_encode := by
    have hrange := (inRange_iff_fits instruction).mpr (encode_of_decode? hdecode).1
    simpa using decode?_encode_append_of_inRange hrange []
  encode_eq := (encode_of_decode? hdecode).2

/-! ## One instruction after the other -/

/-- The items are what one reads from an offset of the bytes on: they lie back to
back, each decodes where it stands, and none decodes where they stop. -/
structure Disassembles (bytes : List UInt8) (start : Nat) (items : List (Nat × Instruction))
    (stop : Nat) : Prop where
  tiles : Tiles start items stop
  decodes : ∀ item ∈ items, decode? (bytes.drop item.1) = some item.2
  stops : decode? (bytes.drop stop) = none
  stop_le_length : stop ≤ bytes.length

/-- Every item takes up at least one byte. -/
theorem Tiles.add_length_le {start stop : Nat} {items : List (Nat × Instruction)}
    (htiles : Tiles start items stop) : start + items.length ≤ stop := by
  induction items generalizing start with
  | nil => exact htiles.le
  | cons item rest ih =>
      have hrest := ih htiles.2
      have hsize := item.2.size_pos
      rw [List.length_cons]
      omega

theorem exists_disassembles (bytes : List UInt8) {start : Nat} {rest : List UInt8}
    (hstart : start ≤ bytes.length) (hrest : bytes.drop start = rest) :
    ∃ stop, Disassembles bytes start (disassembleFrom start rest) stop := by
  induction start, rest using disassembleFrom.induct with
  | case1 start =>
      rw [disassembleFrom]
      exact ⟨start, rfl, List.forall_mem_nil _, by rw [hrest]; rfl, hstart⟩
  | case2 start opcode operands hnone =>
      rw [disassembleFrom, hnone]
      exact ⟨start, rfl, List.forall_mem_nil _, by rw [hrest, hnone], hstart⟩
  | case3 start opcode operands instruction hsome ih =>
      have hsize := size_le_length_of_decode? hsome
      rw [← hrest, List.length_drop] at hsize
      obtain ⟨stop, htiles, hdecodes, hstops, hle⟩ :=
        ih (by omega) (by rw [← hrest, List.drop_drop])
      rw [disassembleFrom, hsome]
      refine ⟨stop, ⟨rfl, htiles⟩, ?_, hstops, hle⟩
      rintro item (- | ⟨-, hitem⟩)
      · rw [hrest, hsome]
      · exact hdecodes item hitem

/-- There is one way to read the bytes from an offset on. -/
theorem Disassembles.unique {bytes : List UInt8} {start stop last : Nat}
    {items others : List (Nat × Instruction)} (hitems : Disassembles bytes start items stop)
    (hothers : Disassembles bytes start others last) : others = items ∧ last = stop := by
  induction items generalizing start others with
  | nil =>
      obtain rfl : start = stop := hitems.tiles
      cases others with
      | nil => exact ⟨rfl, hothers.tiles.symm⟩
      | cons other rest =>
          have hdecode := hothers.decodes other List.mem_cons_self
          rw [hothers.tiles.1, hitems.stops] at hdecode
          cases hdecode
  | cons item rest ih =>
      have hitem := hitems.decodes item List.mem_cons_self
      rw [hitems.tiles.1] at hitem
      cases others with
      | nil =>
          obtain rfl : start = last := hothers.tiles
          rw [hothers.stops] at hitem
          cases hitem
      | cons other later =>
          have hother := hothers.decodes other List.mem_cons_self
          rw [hothers.tiles.1, hitem] at hother
          have hsame : other = item := Prod.ext
            (hothers.tiles.1.trans hitems.tiles.1.symm) (Option.some.inj hother).symm
          subst hsame
          obtain ⟨rfl, rfl⟩ := ih
            ⟨hitems.tiles.2, fun _ hmem => hitems.decodes _ (List.mem_cons_of_mem _ hmem),
              hitems.stops, hitems.stop_le_length⟩
            ⟨hothers.tiles.2, fun _ hmem => hothers.decodes _ (List.mem_cons_of_mem _ hmem),
              hothers.stops, hothers.stop_le_length⟩
          exact ⟨rfl, rfl⟩

/-- Decoding any bytes is sound. An instruction that is read off their start has
between one and six bytes, all of which are there and needed and none of which
follows it; its operands fit; and encoding it gives these bytes back with the
ignored bits cleared, which decode to the same instruction. Disassembling ends on
any bytes, after no more items than there are bytes. The items lie back to back
from the first byte on, each is what decodes at its offset, and they stop at the
first of these offsets at which nothing decodes. No other items do so. -/
theorem readsAs_and_disassembles (bytes : List UInt8) :
    (∀ instruction, decode? bytes = some instruction → ReadsAs bytes instruction) ∧
      ∃ stop, Disassembles bytes 0 (disassemble bytes) stop ∧
        (disassemble bytes).length ≤ stop ∧
        ∀ items last, Disassembles bytes 0 items last →
          items = disassemble bytes ∧ last = stop := by
  obtain ⟨stop, hitems⟩ := exists_disassembles bytes (Nat.zero_le _) List.drop_zero
  refine ⟨fun _ => readsAs_of_decode?, stop, hitems, ?_, fun _ _ => hitems.unique⟩
  have hlength := hitems.tiles.add_length_le
  rwa [Nat.zero_add] at hlength

/-- The operands of the first two instructions have bits set that mean nothing;
the third is a move to a register that does not exist. -/
theorem readsAs_and_disassembles_go :
    ReadsAs [0xA2, 0xFF, 0x00, 0x00, 0x10, 0x80, 0x36, 0x2D, 0xBC, 0x03]
      (go 7 0x80100000 true) ∧
    disassemble [0xA2, 0xFF, 0x00, 0x00, 0x10, 0x80, 0x36, 0x2D, 0xBC, 0x03] =
      [(0, go 7 0x80100000 true), (6, waitForEvent 5 false)] := by
  obtain ⟨hreads, stop, -, -, hunique⟩ := readsAs_and_disassembles
    [0xA2, 0xFF, 0x00, 0x00, 0x10, 0x80, 0x36, 0x2D, 0xBC, 0x03]
  have hitems : Disassembles [0xA2, 0xFF, 0x00, 0x00, 0x10, 0x80, 0x36, 0x2D, 0xBC, 0x03] 0
      [(0, go 7 0x80100000 true), (6, waitForEvent 5 false)] 8 :=
    ⟨⟨rfl, rfl, rfl⟩, by decide, rfl, by decide⟩
  exact ⟨hreads _ rfl, (hunique _ _ hitems).1.symm⟩

end Instruction

end CyclicDma
