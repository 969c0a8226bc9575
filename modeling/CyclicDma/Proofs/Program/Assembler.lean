import CyclicDma.Proofs.Instruction.Disassembly
import CyclicDma.Proofs.Program.Size

/-! # Assembling in two passes

A program is assembled by emitting its instructions one after the other. The
assembler goes over the program twice: without a buffer it only counts bytes,
and then it stores them. It finds the jumps by comparing offsets, and it would
run past the end of a buffer that is too short. `Emits` says what both passes do
for some instructions, whatever was emitted before; the passes agree with
`Program.measure` and `Program.write`.
-/

namespace CyclicDma

/-- Where an assembler goes on, and the buffer that it stores into. Without a
buffer it only counts. -/
structure Assembler where
  buffer : Option (List UInt8)
  offset : Nat

/-- A part of an assembler's work. It may fail with an error; storing past the
end of the buffer gives nothing at all. -/
abbrev Assembly := ExceptT DmaError (StateT Assembler Option)

/-- Store an instruction at the offset, if the buffer reaches far enough. -/
def Assembler.store? (instruction : Instruction) (assembler : Assembler) : Option Assembler :=
  match assembler.buffer with
  | none => some { assembler with offset := assembler.offset + instruction.size }
  | some buffer =>
      (instruction.encodeInto? (buffer.drop assembler.offset)).map fun stored =>
        ⟨some (buffer.take assembler.offset ++ stored), assembler.offset + instruction.size⟩

namespace Assembly

variable {α β : Type}

/-- Do some work. Gives its result and the assembler afterwards. -/
def perform (assembly : Assembly α) (assembler : Assembler) :
    Option (Except DmaError α × Assembler) :=
  assembly.run.run assembler

/-- Emit one instruction. -/
def emit (instruction : Instruction) : Assembly Unit := do
  let stored ← (← get).store? instruction
  set stored

/-- The jump back from here to an earlier offset. -/
def jumpTo (start : Nat) : Assembly UInt8 := do
  let distance := (← get).offset - start
  if distance ≤ Code.maxJump then pure (.ofNat distance) else throw .programTooLarge

/-- Emit a block, closed by a jump back to its start. -/
def enclose (block : Assembly Unit) (close : UInt8 → Instruction) : Assembly Unit := do
  let start := (← get).offset
  block
  let jump ← jumpTo start
  emit (close jump)

/-- Emit a hardware loop around a block. -/
def counted (counter : LoopCounter) (block : Assembly Unit) (iterations : Nat) :
    Assembly Unit := do
  emit (.loop counter (.ofNat iterations))
  enclose block (.loopEnd counter .always)

/-- Emit the hardware loops that execute a block `count` times. -/
def repeated (counter : LoopCounter) (count : Nat) (block : Assembly Unit) : Assembly Unit :=
  (Code.splitIterations count).forM (counted counter block)

end Assembly

/-- Emit structured code. -/
def Code.emit : Code → Assembly Unit
  | nil => pure ()
  | cons instruction next => do
      Assembly.emit instruction
      next.emit
  | loop counter count block next => do
      Assembly.repeated counter count block.emit
      next.emit

/-- Emit the program for a transfer. -/
def Transfer.emit (transfer : Transfer) (event : UInt8) : Assembly Unit := do
  Assembly.emit (.move .control transfer.control.raw)
  Assembly.enclose (transfer.pass event).emit (.loopForever .one)
  Assembly.emit .finish

namespace Assembler

/-- The first pass, which counts the bytes of the program. -/
def measure (transfer : Transfer) (event : UInt8) : Option (Except DmaError Nat) :=
  if transfer.periods = 0 ∨ transfer.periodBytes = 0 then some (.error .invalidTransfer)
  else do
    let (result, last) ← (transfer.emit event).perform ⟨none, 0⟩
    some (result.map fun _ => last.offset)

/-- Both passes. Gives the size of the program and the buffer afterwards, which
is also there when the program could not be stored. -/
def write (transfer : Transfer) (event : UInt8) (buffer : List UInt8) :
    Option (Except DmaError Nat × List UInt8) := do
  match ← measure transfer event with
  | .error error => some (.error error, buffer)
  | .ok size =>
      if buffer.length < size then some (.error .programTooLarge, buffer)
      else
        let (result, last) ← (transfer.emit event).perform ⟨some buffer, 0⟩
        some (result.map fun _ => last.offset, last.buffer.getD buffer)

end Assembler

/-! ## Parts of the work -/

namespace Assembly

variable {α β : Type} {assembler after : Assembler}

theorem perform_pure (value : α) (assembler : Assembler) :
    perform (pure value) assembler = some (.ok value, assembler) := rfl

theorem perform_get_bind (next : Assembler → Assembly β) (assembler : Assembler) :
    perform (get >>= next) assembler = (next assembler).perform assembler := rfl

/-- What follows successful work gets its value and the assembler afterwards. -/
theorem perform_bind_of_ok {first : Assembly α} {value : α}
    (hdone : first.perform assembler = some (.ok value, after)) (next : α → Assembly β) :
    perform (first >>= next) assembler = (next value).perform after := by
  change (first.perform assembler >>= _) = _
  rw [hdone]
  rfl

/-- Nothing that follows failed work is done. -/
theorem perform_bind_of_error {first : Assembly α} {error : DmaError}
    (hfailed : first.perform assembler = some (.error error, after)) (next : α → Assembly β) :
    perform (first >>= next) assembler = some (.error error, after) := by
  change (first.perform assembler >>= _) = _
  rw [hfailed]
  rfl

theorem perform_emit {instruction : Instruction}
    (hstored : assembler.store? instruction = some after) :
    (emit instruction).perform assembler = some (.ok (), after) := by
  rw [emit, perform_get_bind, hstored]
  rfl

theorem perform_jumpTo_of_le {start : Nat} (hjump : assembler.offset - start ≤ Code.maxJump) :
    (jumpTo start).perform assembler =
      some (.ok (.ofNat (assembler.offset - start)), assembler) := by
  rw [jumpTo, perform_get_bind, if_pos hjump, perform_pure]

theorem perform_jumpTo_of_lt {start : Nat} (hlong : Code.maxJump < assembler.offset - start) :
    (jumpTo start).perform assembler = some (.error .programTooLarge, assembler) := by
  rw [jumpTo, perform_get_bind, if_neg (Nat.not_le.mpr hlong)]
  rfl

/-! ## Emitting instructions -/

/-- Work that emits some instructions: the first pass counts them, and the second
stores them over as many bytes, leaving the bytes around them alone. -/
structure Emits (assembly : Assembly Unit) (instructions : List Instruction) : Prop where
  counts : ∀ offset, assembly.perform ⟨none, offset⟩ =
    some (.ok (), ⟨none, offset + Code.bytesOf instructions⟩)
  stores : ∀ front old back : List UInt8, old.length = Code.bytesOf instructions →
    assembly.perform ⟨some (front ++ (old ++ back)), front.length⟩ =
      some (.ok (), ⟨some (front ++ (Instruction.encodeAll instructions ++ back)),
        front.length + Code.bytesOf instructions⟩)

/-- Work that the first pass gives up because a block is too long. -/
def Fails (assembly : Assembly Unit) : Prop :=
  ∀ offset, ∃ last, assembly.perform ⟨none, offset⟩ = some (.error .programTooLarge, last)

variable {first second block : Assembly Unit} {before after : List Instruction}
  {instructions : List Instruction}

theorem emits_pure : Emits (pure ()) [] where
  counts _ := rfl
  stores front old back hlength := by
    rw [Code.bytesOf_nil, List.length_eq_zero_iff] at hlength
    subst hlength
    rfl

theorem emits_emit (instruction : Instruction) : Emits (emit instruction) [instruction] where
  counts offset := perform_emit rfl
  stores front old back hlength := by
    have hsize : old.length = instruction.size := hlength
    have hfits : instruction.size ≤ (old ++ back).length := by
      rw [List.length_append]
      omega
    have hdrop : (old ++ back).drop instruction.size = back := by rw [← hsize, List.drop_left]
    apply perform_emit
    simp only [Assembler.store?, List.drop_left, List.take_left, Instruction.encodeInto?, hfits,
      hdrop]
    simp [Instruction.encodeAll]

/-- What is stored first leaves the bytes for the rest alone. -/
theorem Emits.stores_first (hfirst : Emits first before) {old : List UInt8}
    (hroom : Code.bytesOf before ≤ old.length) (front back : List UInt8) :
    first.perform ⟨some (front ++ (old ++ back)), front.length⟩ =
      some (.ok (), ⟨some (front ++ (Instruction.encodeAll before ++
          (old.drop (Code.bytesOf before) ++ back))),
        front.length + Code.bytesOf before⟩) := by
  have htake : (old.take (Code.bytesOf before)).length = Code.bytesOf before := by
    rw [List.length_take]
    omega
  rw [← hfirst.stores front _ _ htake, ← List.append_assoc (old.take _), List.take_append_drop]

/-- Work that is done one after the other emits its instructions in order. -/
theorem Emits.append (hfirst : Emits first before) (hsecond : Emits second after) :
    Emits (first >>= fun _ => second) (before ++ after) where
  counts offset := by
    rw [perform_bind_of_ok (hfirst.counts offset), hsecond.counts, Code.bytesOf_append,
      Nat.add_assoc]
  stores front old back hlength := by
    rw [Code.bytesOf_append] at hlength
    have hdrop : (old.drop (Code.bytesOf before)).length = Code.bytesOf after := by
      rw [List.length_drop]
      omega
    -- the second part goes on behind what the first one stored
    have hcode : (front ++ Instruction.encodeAll before).length =
        front.length + Code.bytesOf before := by
      rw [List.length_append, Instruction.length_encodeAll]
    rw [perform_bind_of_ok (hfirst.stores_first (by omega) front back), ← hcode,
      ← List.append_assoc, hsecond.stores _ _ _ hdrop, hcode, Code.bytesOf_append,
      Instruction.encodeAll_append]
    simp only [List.append_assoc, Nat.add_assoc]

theorem Fails.left (hfirst : Fails first) (next : Unit → Assembly Unit) :
    Fails (first >>= next) := by
  intro offset
  obtain ⟨last, hlast⟩ := hfirst offset
  exact ⟨last, perform_bind_of_error hlast next⟩

theorem Emits.fails_right (hfirst : Emits first before) (hsecond : Fails second) :
    Fails (first >>= fun _ => second) := by
  intro offset
  obtain ⟨last, hlast⟩ := hsecond (offset + Code.bytesOf before)
  exact ⟨last, (perform_bind_of_ok (hfirst.counts offset) _).trans hlast⟩

/-! ## Emitting blocks -/

/-- After a block, the jump over it is found by comparing offsets. -/
theorem perform_enclose_of_le {assembler last : Assembler} {size : Nat}
    (hblock : block.perform assembler = some (.ok (), last))
    (hsize : last.offset = assembler.offset + size) (hjump : size ≤ Code.maxJump)
    (close : UInt8 → Instruction) :
    (enclose block close).perform assembler = (emit (close (.ofNat size))).perform last := by
  have hdistance : last.offset - assembler.offset = size := by omega
  have hfound := perform_jumpTo_of_le (hdistance ▸ hjump)
  rw [enclose, perform_get_bind, perform_bind_of_ok hblock, perform_bind_of_ok hfound, hdistance]

/-- A block is closed by a jump over its bytes, if the jump reaches that far. -/
theorem Emits.enclose (hblock : Emits block instructions)
    (hjump : Code.bytesOf instructions ≤ Code.maxJump) (close : UInt8 → Instruction) :
    Emits (enclose block close)
      (instructions ++ [close (.ofNat (Code.bytesOf instructions))]) := by
  have hclosed := hblock.append (emits_emit (close (.ofNat (Code.bytesOf instructions))))
  constructor
  · intro offset
    rw [← hclosed.counts, perform_enclose_of_le (hblock.counts offset) rfl hjump,
      perform_bind_of_ok (hblock.counts offset)]
  · intro front old back hlength
    have hroom : Code.bytesOf instructions ≤ old.length := by
      rw [hlength, Code.bytesOf_append]
      exact Nat.le_add_right ..
    have hdone := hblock.stores_first hroom front back
    rw [← hclosed.stores _ _ _ hlength, perform_enclose_of_le hdone rfl hjump,
      perform_bind_of_ok hdone]

theorem Fails.enclose (hblock : Fails block) (close : UInt8 → Instruction) :
    Fails (enclose block close) :=
  fun offset => hblock.left _ offset

theorem Emits.fails_enclose (hblock : Emits block instructions)
    (hlong : Code.maxJump < Code.bytesOf instructions) (close : UInt8 → Instruction) :
    Fails (Assembly.enclose block close) := by
  intro offset
  have hdistance : Code.maxJump < offset + Code.bytesOf instructions - offset := by omega
  refine ⟨⟨none, offset + Code.bytesOf instructions⟩, ?_⟩
  rw [Assembly.enclose, perform_get_bind, perform_bind_of_ok (hblock.counts offset)]
  exact perform_bind_of_error (perform_jumpTo_of_lt hdistance) _

/-- Each hardware loop repeats the block and the jump over it. -/
theorem Emits.repeated (hblock : Emits block instructions)
    (hjump : Code.bytesOf instructions ≤ Code.maxJump) (counter : LoopCounter) (count : Nat) :
    Emits (repeated counter count block)
      ((Code.splitIterations count).flatMap (Code.repetition counter instructions)) := by
  have hcounted : ∀ iterations, Emits (counted counter block iterations)
      (Code.repetition counter instructions iterations) := fun _ =>
    (emits_emit _).append (hblock.enclose hjump _)
  rw [Assembly.repeated]
  induction Code.splitIterations count with
  | nil => exact emits_pure
  | cons first rest ih => exact (hcounted first).append ih

/-- A block that is executed and cannot be closed has no hardware loop. -/
theorem fails_repeated {counter : LoopCounter} {count : Nat} (hsome : count ≠ 0)
    (hfails : ∀ close, Fails (enclose block close)) : Fails (repeated counter count block) := by
  obtain ⟨first, rest, hsplit⟩ :=
    List.exists_cons_of_ne_nil (mt Code.splitIterations_eq_nil_iff.mp hsome)
  rw [repeated, hsplit]
  exact ((emits_emit _).fails_right (hfails _)).left _

end Assembly

open Assembly

/-- Code that has a size is emitted as it is assembled. -/
theorem Code.emits_emit {code : Code} (hsize : code.size?.isSome) :
    Emits code.emit code.assemble := by
  induction code with
  | nil => exact emits_pure
  | cons instruction next ih =>
      rw [size?, Option.isSome_map] at hsize
      exact (Assembly.emits_emit instruction).append (ih hsize)
  | loop counter count block next ihblock ihnext =>
      obtain ⟨hblock, hnext⟩ := isSome_size?_loop.mp hsize
      refine Emits.append ?_ (ihnext hnext)
      obtain rfl | ⟨hblock, hjump⟩ := hblock
      · exact emits_pure
      · exact (ihblock hblock).repeated hjump counter count

/-- Code without a size is given up by the first pass, wherever its block that is
too long stands. -/
theorem Code.fails_emit {code : Code} (hsize : ¬code.size?.isSome) : Fails code.emit := by
  induction code with
  | nil => exact absurd rfl hsize
  | cons instruction next ih =>
      rw [size?, Option.isSome_map] at hsize
      exact (Assembly.emits_emit instruction).fails_right (ih hsize)
  | loop counter count block next ihblock ihnext =>
      by_cases hclosed : count = 0 ∨ block.size?.isSome ∧ bytesOf block.assemble ≤ maxJump
      · have hnext : Fails next.emit := ihnext fun hnext =>
          hsize (isSome_size?_loop.mpr ⟨hclosed, hnext⟩)
        obtain rfl | ⟨hblock, hjump⟩ := hclosed
        · exact emits_pure.fails_right hnext
        · exact ((emits_emit hblock).repeated hjump counter count).fails_right hnext
      · obtain ⟨hcount, hblock⟩ := not_or.mp hclosed
        refine (fails_repeated hcount fun close => ?_).left _
        by_cases hfits : block.size?.isSome
        · exact (emits_emit hfits).fails_enclose
            (Nat.lt_of_not_le fun hjump => hblock ⟨hfits, hjump⟩) close
        · exact (ihblock hfits).enclose close

/-! ## The two passes -/

namespace Transfer

variable {transfer : Transfer} {event : UInt8} {pass : Nat}

theorem emits_emit (hpass : (transfer.pass event).size? = some pass)
    (hjump : pass ≤ Code.maxJump) : Emits (transfer.emit event) (transfer.program event) := by
  have hbytes := Code.bytesOf_assemble hpass
  have hblock : Emits (transfer.pass event).emit (transfer.pass event).assemble :=
    Code.emits_emit (by rw [hpass]; rfl)
  have hclosed := hblock.enclose (hbytes ▸ hjump) (.loopForever .one)
  have hprogram := (Assembly.emits_emit (.move .control transfer.control.raw)).append
    (hclosed.append (Assembly.emits_emit .finish))
  rw [List.append_assoc] at hprogram
  exact hprogram

/-- A pass that is longer than a jump is given up by the first pass over its
program. -/
theorem fails_emit
    (hlong : ∀ pass, (transfer.pass event).size? = some pass → Code.maxJump < pass) :
    Fails (transfer.emit event) := by
  refine (Assembly.emits_emit _).fails_right (Fails.left ?_ _)
  cases hpass : (transfer.pass event).size? with
  | none => exact (Code.fails_emit (by simp [hpass])).enclose _
  | some pass =>
      refine (Code.emits_emit (by rw [hpass]; rfl)).fails_enclose ?_ _
      rw [Code.bytesOf_assemble hpass]
      exact hlong pass hpass

end Transfer

namespace Assembler

variable (transfer : Transfer) (event : UInt8) (buffer : List UInt8)

theorem measure_of_fails (hempty : ¬(transfer.periods = 0 ∨ transfer.periodBytes = 0))
    (hfails : Fails (transfer.emit event)) :
    measure transfer event = some (.error .programTooLarge) := by
  obtain ⟨last, hlast⟩ := hfails 0
  rw [measure, if_neg hempty, hlast]
  rfl

/-- The first pass finds the size of the program, or why there is none. -/
theorem measure_eq : measure transfer event = some (Program.measure transfer event) := by
  by_cases hempty : transfer.periods = 0 ∨ transfer.periodBytes = 0
  · rw [measure, Program.measure, if_pos hempty, if_pos hempty]
  · rw [Program.measure, if_neg hempty]
    cases hpass : (transfer.pass event).size? with
    | none =>
        exact measure_of_fails transfer event hempty
          (Transfer.fails_emit fun pass hsome => by rw [hpass] at hsome; cases hsome)
    | some pass =>
        by_cases hjump : pass ≤ Code.maxJump
        · have hsize : Program.measure transfer event = .ok (pass + Program.overhead) := by
            rw [Program.measure, if_neg hempty, hpass]
            exact if_pos hjump
          rw [measure, if_neg hempty, (Transfer.emits_emit hpass hjump).counts 0,
            ← Instruction.length_encodeAll, Program.length_encodeAll_program hsize, Nat.zero_add]
          simp only [if_pos hjump]
          rfl
        · simp only [if_neg hjump]
          refine measure_of_fails transfer event hempty (Transfer.fails_emit fun other hsome => ?_)
          rw [hpass] at hsome
          cases hsome
          exact Nat.lt_of_not_le hjump

/-- The second pass stores the program if it fits, and is not made otherwise. -/
theorem write_eq :
    write transfer event buffer = some (match Program.write transfer event buffer with
      | .error error => (.error error, buffer)
      | .ok (size, written) => (.ok size, written)) := by
  rw [write, measure_eq, Program.write]
  cases hmeasure : Program.measure transfer event with
  | error error => rfl
  | ok size =>
      by_cases hfits : size ≤ buffer.length
      · obtain ⟨-, -, pass, hpass, hjump, -⟩ := Program.measure_eq_ok hmeasure
        have hbytes : Code.bytesOf (transfer.program event) = size := by
          rw [← Instruction.length_encodeAll, Program.length_encodeAll_program hmeasure]
        have hold : (buffer.take size).length = Code.bytesOf (transfer.program event) := by
          rw [List.length_take, hbytes]
          omega
        have hstored := (Transfer.emits_emit hpass hjump).stores [] _ (buffer.drop size) hold
        rw [List.nil_append, List.take_append_drop, hbytes, List.length_nil,
          Nat.zero_add] at hstored
        have hroom : ¬buffer.length < size := Nat.not_lt.mpr hfits
        simp only [Option.bind_eq_bind, Option.bind_some, if_neg hroom, if_pos hfits, hstored]
        rfl
      · simp only [Option.bind_eq_bind, Option.bind_some, if_pos (Nat.lt_of_not_le hfits),
          if_neg hfits]

end Assembler

/-! ## Disassembling a program -/

namespace Instruction

/-- The rows of a disassembly lie back to back between two offsets. -/
def Tiles : Nat → List (Nat × Instruction) → Nat → Prop
  | start, [], stop => start = stop
  | start, (offset, instruction) :: rest, stop =>
      offset = start ∧ Tiles (start + instruction.size) rest stop

/-- Instructions that were encoded are read without a gap. -/
theorem tiles_disassembleFrom (start : Nat) (instructions : List Instruction) :
    Tiles start (disassembleFrom start (encodeAll instructions))
      (start + Code.bytesOf instructions) := by
  induction instructions generalizing start with
  | nil => simp [encodeAll, disassembleFrom, Tiles]
  | cons instruction rest ih =>
      rw [encodeAll_cons, disassembleFrom_encode_append, Code.bytesOf_cons, ← Nat.add_assoc]
      refine ⟨rfl, ?_⟩
      rw [size_normalize]
      exact ih _

/-- The last instruction that was encoded is the last one that is read. -/
theorem getLast?_disassembleFrom (start : Nat) (instructions : List Instruction)
    (last : Instruction) :
    (disassembleFrom start (encodeAll (instructions ++ [last]))).getLast? =
      some (start + Code.bytesOf instructions, last.normalize) := by
  induction instructions generalizing start with
  | nil =>
      rw [List.nil_append, encodeAll_cons, disassembleFrom_encode_append]
      simp [encodeAll, disassembleFrom]
  | cons instruction rest ih =>
      rw [List.cons_append, encodeAll_cons, disassembleFrom_encode_append, List.getLast?_cons, ih,
        Code.bytesOf_cons, Nat.add_assoc]
      rfl

end Instruction

namespace Program

/-- Both passes over a program agree, and a program is stored as a whole or not
at all. The first pass never fails but with an error, which the second one
returns without storing anything; a program that is longer than the buffer is
turned away in the same way. Otherwise no instruction is stored past the end of
the buffer. Only as many bytes as the first pass counted are written, and they
are the same whatever the buffer held; they are read back without a gap, up to
the end of the program in the last byte. -/
theorem write_as_measured (transfer : Transfer) (event : UInt8) :
    Assembler.measure transfer event = some (measure transfer event) ∧
      match measure transfer event with
      | .error error => ∀ buffer,
          Assembler.write transfer event buffer = some (.error error, buffer) ∧
          write transfer event buffer = .error error
      | .ok size => ∃ code : List UInt8,
          code.length = size ∧
          Instruction.Tiles 0 (Instruction.disassemble code) size ∧
          (Instruction.disassemble code).getLast? = some (size - 1, .finish) ∧
          ∀ buffer,
            if buffer.length < size then
              Assembler.write transfer event buffer = some (.error .programTooLarge, buffer) ∧
              write transfer event buffer = .error .programTooLarge
            else
              Assembler.write transfer event buffer =
                some (.ok size, code ++ buffer.drop size) ∧
              write transfer event buffer = .ok (size, code ++ buffer.drop size) := by
  refine ⟨Assembler.measure_eq transfer event, ?_⟩
  cases hmeasure : measure transfer event with
  | error error =>
      intro buffer
      have hwrite : write transfer event buffer = .error error := by rw [write, hmeasure]
      exact ⟨by rw [Assembler.write_eq, hwrite], hwrite⟩
  | ok size =>
      have hlength := length_encodeAll_program hmeasure
      have hbytes : Code.bytesOf (transfer.program event) = size := by
        rw [← Instruction.length_encodeAll, hlength]
      refine ⟨Instruction.encodeAll (transfer.program event), hlength, ?_, ?_, fun buffer => ?_⟩
      · have htiles := Instruction.tiles_disassembleFrom 0 (transfer.program event)
        rwa [hbytes, Nat.zero_add] at htiles
      · have hsplit : transfer.program event =
            (.move .control transfer.control.raw :: (transfer.pass event).assemble ++
              [.loopForever .one (.ofNat (Code.bytesOf (transfer.pass event).assemble))]) ++
              [.finish] := by
          rw [Transfer.program, List.append_assoc]
          rfl
        have hlast := Instruction.getLast?_disassembleFrom 0
          (.move .control transfer.control.raw :: (transfer.pass event).assemble ++
            [.loopForever .one (.ofNat (Code.bytesOf (transfer.pass event).assemble))]) .finish
        rw [← hsplit] at hlast
        rw [hsplit, Code.bytesOf_append] at hbytes
        rw [Instruction.disassemble, hlast, ← hbytes, Nat.zero_add]
        rfl
      · split
        next hshort =>
          have hwrite : write transfer event buffer = .error .programTooLarge := by
            rw [write, hmeasure]
            exact if_neg (Nat.not_le.mpr hshort)
          exact ⟨by rw [Assembler.write_eq, hwrite], hwrite⟩
        next hroom =>
          have hwrite := write_of_measure hmeasure (Nat.not_lt.mp hroom)
          exact ⟨by rw [Assembler.write_eq, hwrite], hwrite⟩

/-- A buffer that is one byte too short stays as it is; one that is a byte too
long keeps its last byte. -/
theorem write_as_measured_oddTransfer :
    ∃ code : List UInt8, code.length = 111 ∧
      (Instruction.disassemble code).getLast? = some (110, .finish) ∧
      Assembler.write oddTransfer 5 (List.replicate 110 0xFF) =
        some (.error .programTooLarge, List.replicate 110 0xFF) ∧
      Assembler.write oddTransfer 5 (List.replicate 112 0xFF) = some (.ok 111, code ++ [0xFF]) ∧
      Assembler.write oddTransfer 5 (List.replicate 112 0x00) = some (.ok 111, code ++ [0x00]) := by
  have hmeasure : measure oddTransfer 5 = .ok 111 := by cbv
  have hboth := (write_as_measured oddTransfer 5).2
  rw [hmeasure] at hboth
  obtain ⟨code, hlength, -, hlast, hbuffers⟩ := hboth
  have hshort := hbuffers (List.replicate 110 0xFF)
  rw [List.length_replicate, if_pos (by decide)] at hshort
  have hlong : ∀ byte, Assembler.write oddTransfer 5 (List.replicate 112 byte) =
      some (.ok 111, code ++ [byte]) := by
    intro byte
    have hfits := hbuffers (List.replicate 112 byte)
    rw [List.length_replicate, if_neg (by decide)] at hfits
    exact hfits.1
  exact ⟨code, hlength, hlast, hshort.1, hlong _, hlong _⟩

end Program

end CyclicDma
