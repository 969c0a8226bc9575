import CyclicDma.Proofs.Program.Meaning
import Mathlib.Algebra.Order.Floor.Div

/-! # The size of a program

A program is measured without being assembled, and a loop that is too long for
its jump can turn up at the end of any of three nested blocks. The outermost
block contains the others, so only its size decides, and that size has a closed
form: `Transfer.passSize` adds up the hardware loops that the bursts and the
periods are split over.
-/

namespace CyclicDma

/-! ## Jumps -/

/-- How far a jump back goes. -/
def Instruction.jump? : Instruction → Option UInt8
  | loopEnd _ _ jump | loopForever _ jump => some jump
  | _ => none

/-- The jumps of several instructions, as they are stored. -/
def Instruction.jumps (instructions : List Instruction) : List UInt8 :=
  instructions.filterMap jump?

theorem Instruction.jumps_append (first second : List Instruction) :
    jumps (first ++ second) = jumps first ++ jumps second :=
  List.filterMap_append

namespace Code

/-- The bytes that the loops of assembled code have to jump back, in order: one
number for each hardware loop, which is the size of its block. -/
def distances : Code → List Nat
  | nil => []
  | cons _ next => next.distances
  | loop _ count block next =>
      (splitIterations count).flatMap (fun _ => block.distances ++ [bytesOf block.assemble]) ++
        next.distances

theorem splitIterations_eq_nil_iff {count : Nat} : splitIterations count = [] ↔ count = 0 := by
  rw [← List.length_eq_zero_iff, length_splitIterations, loopsFor, maxIterations]
  omega

/-- A block needs a hardware loop for each 256 times that it is executed, or for
a part of them. -/
theorem loopsFor_eq_ceilDiv (count : Nat) : loopsFor count = count ⌈/⌉ 256 := by
  rw [Nat.ceilDiv_eq_add_pred_div, Nat.add_sub_assoc (by decide), loopsFor, maxIterations]

/-- A block that is executed has to be within the reach of a jump. -/
theorem isSome_size?_loop {counter : LoopCounter} {count : Nat} {block next : Code} :
    (loop counter count block next).size?.isSome ↔
      (count = 0 ∨ block.size?.isSome ∧ bytesOf block.assemble ≤ maxJump) ∧
        next.size?.isSome := by
  rw [size?]
  by_cases hcount : count = 0
  · simp [hcount]
  · rw [if_neg hcount]
    cases hblock : block.size? with
    | none => simp [hcount]
    | some body =>
        rw [bytesOf_assemble hblock]
        cases next.size? <;> by_cases hjump : body ≤ maxJump <;> simp [hcount, hjump]

/-- Code has a size when its loops are within the reach of a jump. -/
theorem isSome_size?_iff (code : Code) :
    code.size?.isSome ↔ ∀ distance ∈ code.distances, distance ≤ maxJump := by
  induction code with
  | nil => simp [size?, distances]
  | cons instruction next ih => rw [size?, Option.isSome_map, ih, distances]
  | loop counter count block next ihblock ihnext =>
      rw [isSome_size?_loop, distances, List.forall_mem_append, ← ihnext, ihblock,
        ← List.forall_mem_singleton (p := (· ≤ maxJump)), ← List.forall_mem_append,
        ← splitIterations_eq_nil_iff]
      -- each hardware loop has the same jumps
      cases splitIterations count with
      | nil => simp
      | cons first rest =>
          refine and_congr_left' ?_
          simp only [reduceCtorEq, false_or, List.forall_mem_flatMap]
          exact ⟨fun hall _ _ => hall, fun hall => hall first List.mem_cons_self⟩

/-- All jumps of the code are those of its blocks. -/
def Structured : Code → Prop
  | nil => True
  | cons instruction next => instruction.jump? = none ∧ next.Structured
  | loop _ _ block next => block.Structured ∧ next.Structured

theorem structured_prepend {instructions : List Instruction} {next : Code}
    (hplain : ∀ instruction ∈ instructions, instruction.jump? = none)
    (hnext : next.Structured) : (prepend instructions next).Structured := by
  induction instructions with
  | nil => exact hnext
  | cons instruction rest ih =>
      obtain ⟨hhead, htail⟩ := List.forall_mem_cons.mp hplain
      exact ⟨hhead, ih htail⟩

/-- A hardware loop has the jumps of its block, and its own over the block. -/
theorem jumps_repetition (counter : LoopCounter) (body : List Instruction) (iterations : Nat) :
    Instruction.jumps (repetition counter body iterations) =
      Instruction.jumps body ++ [.ofNat (bytesOf body)] := by
  rw [repetition, List.cons_append, Instruction.jumps, List.filterMap_cons_none rfl,
    List.filterMap_append]
  rfl

/-- Assembled code stores the distances of its jumps, each cut down to a byte. -/
theorem jumps_assemble {code : Code} (hstructured : code.Structured) :
    Instruction.jumps code.assemble = code.distances.map .ofNat := by
  induction code with
  | nil => rfl
  | cons instruction next ih =>
      rw [assemble, Instruction.jumps, List.filterMap_cons_none hstructured.1, distances]
      exact ih hstructured.2
  | loop counter count block next ihblock ihnext =>
      have hloops : ∀ iterations : List Nat,
          Instruction.jumps (iterations.flatMap (repetition counter block.assemble)) =
            (iterations.flatMap fun _ =>
              block.distances ++ [bytesOf block.assemble]).map .ofNat := by
        intro iterations
        induction iterations with
        | nil => rfl
        | cons first rest ih =>
            rw [List.flatMap_cons, Instruction.jumps_append, ih, jumps_repetition,
              ihblock hstructured.1, List.flatMap_cons, List.map_append, List.map_append]
            rfl
      rw [assemble_loop, Instruction.jumps_append, hloops, ihnext hstructured.2, distances,
        List.map_append]

/-! ## Sizes of blocks -/

theorem size?_prepend (instructions : List Instruction) (next : Code) :
    (prepend instructions next).size? = next.size?.map (bytesOf instructions + ·) := by
  induction instructions with
  | nil => simp [prepend]
  | cons instruction rest ih =>
      change ((prepend rest next).size?).map (instruction.size + ·) = _
      rw [ih, Option.map_map, bytesOf_cons]
      simp only [Function.comp_def, Nat.add_assoc]

/-- A block within the reach of a jump takes its hardware loops, of which a block
that is never executed has none. -/
theorem size?_loop {counter : LoopCounter} {count body rest : Nat} {block next : Code}
    (hblock : block.size? = some body) (hjump : body ≤ maxJump)
    (hnext : next.size? = some rest) :
    (loop counter count block next).size? = some (loopsFor count * (4 + body) + rest) := by
  rw [size?, hblock, hnext]
  by_cases hcount : count = 0
  · simp [hcount, loopsFor, maxIterations]
  · rw [if_neg hcount]
    exact if_pos hjump

end Code

namespace Direction

/-- The bytes of code that move one burst. -/
def moveSize : Direction → Nat
  | memoryToMemory => 2
  | memoryToPeripheral _ | peripheralToMemory _ => 5

/-- The bytes of code that drop the requests of a peripheral. -/
def flushSize : Direction → Nat
  | memoryToMemory => 0
  | memoryToPeripheral _ | peripheralToMemory _ => 2

@[simp]
theorem bytesOf_moveBurst (direction : Direction) :
    Code.bytesOf direction.moveBurst = direction.moveSize := by
  cases direction <;> rfl

@[simp]
theorem bytesOf_flush (direction : Direction) :
    Code.bytesOf direction.flush = direction.flushSize := by
  cases direction <;> rfl

theorem moveSize_le (direction : Direction) : direction.moveSize ≤ Code.maxJump := by
  cases direction <;> simp [moveSize, Code.maxJump]

end Direction

namespace Transfer

variable (transfer : Transfer) (event : UInt8)

/-- The bytes of code that move what a period leaves over: a short burst for
the whole beats, another for the bytes that are left, and the control word. -/
def remainderSize : Nat :=
  let rest := transfer.periodBytes.toNat % transfer.control.burstBytes.toNat
  let short := 6 + transfer.direction.moveSize
  if rest = 0 then 0
  else
    6 + (if 0 < rest / transfer.control.burstSize.toNat then short else 0) +
      if 0 < rest % transfer.control.burstSize.toNat then short else 0

/-- The bytes of code of a period. -/
def periodSize : Nat :=
  transfer.direction.flushSize +
    (transfer.periodBytes.toNat / transfer.control.burstBytes.toNat) ⌈/⌉ 256 *
      (4 + transfer.direction.moveSize) +
    transfer.remainderSize + 2

/-- The bytes of code of a pass, which are those between the last jump of the
program and the place that it goes back to. -/
def passSize : Nat :=
  12 + transfer.periods.toNat ⌈/⌉ 256 * (4 + transfer.periodSize)

theorem bytesOf_moveShort (size length : UInt32) :
    Code.bytesOf (transfer.moveShort size length) = 6 + transfer.direction.moveSize := by
  rw [moveShort, Code.bytesOf_cons, Direction.bytesOf_moveBurst]
  rfl

/-- A short burst that moves nothing is left out. -/
theorem bytesOf_moveShort_unless (size beats : UInt32) :
    Code.bytesOf (if beats = 0 then [] else transfer.moveShort size beats) =
      if 0 < beats.toNat then 6 + transfer.direction.moveSize else 0 := by
  by_cases hnone : beats = 0
  · simp [hnone]
  · have hpos : 0 < beats.toNat := Nat.pos_of_ne_zero fun hzero =>
      hnone (UInt32.toNat_inj.mp hzero)
    rw [if_neg hnone, if_pos hpos, bytesOf_moveShort]

theorem bytesOf_moveRemainder :
    Code.bytesOf transfer.moveRemainder = transfer.remainderSize := by
  have hrest : transfer.remainderBytes.toNat =
      transfer.periodBytes.toNat % transfer.control.burstBytes.toNat := UInt32.toNat_mod ..
  unfold moveRemainder remainderSize
  by_cases hnone : transfer.remainderBytes = 0
  · have hzero : transfer.periodBytes.toNat % transfer.control.burstBytes.toNat = 0 := by
      rw [← hrest, hnone]
      rfl
    simp [hnone, hzero]
  · have hsome : transfer.periodBytes.toNat % transfer.control.burstBytes.toNat ≠ 0 := by
      rw [← hrest]
      exact fun hzero => hnone (UInt32.toNat_inj.mp hzero)
    simp only [if_neg hnone, if_neg hsome, Code.bytesOf_append, bytesOf_moveShort_unless,
      UInt32.toNat_div, UInt32.toNat_mod, hrest, Code.bytesOf_cons, Code.bytesOf_nil,
      Instruction.size]
    omega

/-- Neither the bursts nor the remainder of a period can be too long for a
jump. -/
theorem size?_period : (transfer.period event).size? = some transfer.periodSize := by
  have hburst : (Code.prepend transfer.direction.moveBurst .nil).size? =
      some transfer.direction.moveSize := by
    rw [Code.size?_prepend, Direction.bytesOf_moveBurst]
    rfl
  have hafter : (Code.prepend (transfer.moveRemainder ++ [.signalEvent event]) .nil).size? =
      some (transfer.remainderSize + 2) := by
    rw [Code.size?_prepend, Code.bytesOf_append, bytesOf_moveRemainder]
    rfl
  have hbursts : transfer.bursts.toNat =
      transfer.periodBytes.toNat / transfer.control.burstBytes.toNat := UInt32.toNat_div ..
  rw [period, Code.size?_prepend, Code.size?_loop hburst (Direction.moveSize_le _) hafter,
    Direction.bytesOf_flush, Option.map_some, periodSize, hbursts, Code.loopsFor_eq_ceilDiv]
  congr 1
  omega

variable {transfer event}

/-- A pass is as long as its closed form says, unless a period is too long for
the jump that repeats it. -/
theorem size?_pass (hperiods : transfer.periods ≠ 0) :
    (transfer.pass event).size? =
      if transfer.periodSize ≤ Code.maxJump then some transfer.passSize else none := by
  have hsome : transfer.periods.toNat ≠ 0 := fun hzero => hperiods (UInt32.toNat_inj.mp hzero)
  rw [pass, Code.size?_prepend]
  split
  next hjump =>
    rw [Code.size?_loop (transfer.size?_period event) hjump rfl, Code.loopsFor_eq_ceilDiv]
    rfl
  next hlong => simp [Code.size?, hsome, size?_period, hlong]

/-- A period is contained in its pass. -/
theorem periodSize_lt_passSize (hperiods : transfer.periods ≠ 0) :
    transfer.periodSize < transfer.passSize := by
  have hsome : transfer.periods.toNat ≠ 0 := fun hzero => hperiods (UInt32.toNat_inj.mp hzero)
  have hloops : 0 < transfer.periods.toNat ⌈/⌉ 256 := by
    rw [Nat.ceilDiv_eq_add_pred_div]
    omega
  calc transfer.periodSize
      < 12 + 1 * (4 + transfer.periodSize) := by omega
    _ ≤ transfer.passSize := Nat.add_le_add_left (Nat.mul_le_mul_right _ hloops) 12

/-! ## The jumps of a program -/

/-- The bytes that the loops of the program have to jump back, in order. The
last one is a whole pass. -/
def distances (transfer : Transfer) (event : UInt8) : List Nat :=
  (transfer.pass event).distances ++ [Code.bytesOf (transfer.pass event).assemble]

theorem jump?_moveBurst (direction : Direction) :
    ∀ instruction ∈ direction.moveBurst, instruction.jump? = none := by
  cases direction <;> simp [Direction.moveBurst, Instruction.jump?]

theorem jump?_moveShort (transfer : Transfer) (size length : UInt32) :
    ∀ instruction ∈ transfer.moveShort size length, instruction.jump? = none :=
  List.forall_mem_cons.mpr ⟨rfl, jump?_moveBurst _⟩

theorem jump?_moveRemainder (transfer : Transfer) :
    ∀ instruction ∈ transfer.moveRemainder, instruction.jump? = none := by
  unfold moveRemainder
  apply forall_mem_unless
  refine List.forall_mem_append.mpr ⟨List.forall_mem_append.mpr ⟨?_, ?_⟩, ?_⟩
  · exact forall_mem_unless (jump?_moveShort _ _ _)
  · exact forall_mem_unless (jump?_moveShort _ _ _)
  · exact List.forall_mem_singleton.mpr rfl

theorem structured_pass (transfer : Transfer) (event : UInt8) :
    (transfer.pass event).Structured := by
  have hflush : ∀ instruction ∈ transfer.direction.flush, instruction.jump? = none := by
    intro instruction hmem
    obtain ⟨peripheral, -, rfl⟩ := List.mem_map.mp hmem
    rfl
  have hperiod : (transfer.period event).Structured := by
    refine Code.structured_prepend hflush ⟨?_, ?_⟩
    · exact Code.structured_prepend (jump?_moveBurst _) trivial
    · exact Code.structured_prepend (List.forall_mem_append.mpr
        ⟨transfer.jump?_moveRemainder, List.forall_mem_singleton.mpr rfl⟩) trivial
  exact Code.structured_prepend (by simp [Instruction.jump?]) ⟨hperiod, trivial⟩

/-- The program stores the distances of its jumps, each cut down to a byte. -/
theorem jumps_program (transfer : Transfer) (event : UInt8) :
    Instruction.jumps (transfer.program event) = (transfer.distances event).map .ofNat := by
  have hpass := Code.jumps_assemble (transfer.structured_pass event)
  rw [program, List.cons_append, Instruction.jumps, List.filterMap_cons_none rfl,
    List.filterMap_append, distances, List.map_append, ← hpass]
  rfl

end Transfer

namespace Program

variable {transfer : Transfer} {event : UInt8}

/-- Only the last jump of a program can be too long alone. -/
theorem measure_of_not_empty (hempty : ¬(transfer.periods = 0 ∨ transfer.periodBytes = 0)) :
    measure transfer event =
      if transfer.passSize ≤ Code.maxJump then .ok (transfer.passSize + overhead)
      else .error .programTooLarge := by
  obtain ⟨hperiods, -⟩ := not_or.mp hempty
  have hcontained := Transfer.periodSize_lt_passSize hperiods
  rw [measure, if_neg hempty, Transfer.size?_pass hperiods]
  by_cases hperiod : transfer.periodSize ≤ Code.maxJump
  · simp only [if_pos hperiod]
  · have hpass : ¬transfer.passSize ≤ Code.maxJump := by omega
    simp only [if_neg hperiod, if_neg hpass]

/-- A transfer that is not empty has a program when the loops of the program are
within the reach of a jump. -/
theorem measure_isOk_iff :
    (measure transfer event).isOk ↔
      (transfer.periods ≠ 0 ∧ transfer.periodBytes ≠ 0) ∧
        ∀ distance ∈ transfer.distances event, distance ≤ Code.maxJump := by
  rw [measure, Transfer.distances, List.forall_mem_append, List.forall_mem_singleton,
    ← Code.isSome_size?_iff, ← not_or]
  by_cases hempty : transfer.periods = 0 ∨ transfer.periodBytes = 0
  · simp [hempty, Except.isOk, Except.toBool]
  · rw [if_neg hempty]
    cases hpass : (transfer.pass event).size? with
    | none => simp [Except.isOk, Except.toBool]
    | some pass =>
        rw [Code.bytesOf_assemble hpass]
        by_cases hjump : pass ≤ Code.maxJump <;> simp [hempty, hjump, Except.isOk, Except.toBool]

/-- The program of a transfer has the size of a pass and nine bytes around it.
An empty transfer has no program, and neither has one whose pass is longer than
a jump; a period or its bursts are never too long alone. Each jump of a program
goes back exactly as far as it has to, and a transfer is turned away only if one
of its jumps could not. -/
theorem measure_exact (transfer : Transfer) (event : UInt8) :
    measure transfer event =
        (if transfer.periods = 0 ∨ transfer.periodBytes = 0 then .error .invalidTransfer
        else if 255 < transfer.passSize then .error .programTooLarge
        else .ok (transfer.passSize + 9)) ∧
      ((measure transfer event).isOk →
        (Instruction.jumps (transfer.program event)).map UInt8.toNat =
          transfer.distances event) ∧
      ((measure transfer event).isOk ↔
        (transfer.periods ≠ 0 ∧ transfer.periodBytes ≠ 0) ∧
          ∀ distance ∈ transfer.distances event, distance ≤ 255) := by
  refine ⟨?_, fun hok => ?_, measure_isOk_iff⟩
  · by_cases hempty : transfer.periods = 0 ∨ transfer.periodBytes = 0
    · rw [measure, if_pos hempty, if_pos hempty]
    · rw [measure_of_not_empty hempty, if_neg hempty]
      by_cases hlong : 255 < transfer.passSize
      · exact (if_neg (Nat.not_le.mpr hlong)).trans (if_pos hlong).symm
      · exact (if_pos (Nat.not_lt.mp hlong)).trans (if_neg hlong).symm
  · obtain ⟨-, hall⟩ := measure_isOk_iff.mp hok
    have hexact : ∀ distance ∈ transfer.distances event,
        (UInt8.ofNat distance).toNat = distance := by
      intro distance hmem
      rw [UInt8.toNat_ofNat']
      exact Nat.mod_eq_of_lt (Nat.lt_succ_of_le (hall distance hmem))
    rw [Transfer.jumps_program, List.map_map]
    exact (List.map_congr_left hexact).trans (List.map_id _)

/-- The longest pass there can be, and two that are longer: the bursts of a
period need one more loop, or the periods do. -/
theorem measure_exact_longest :
    measure { oddTransfer with periodBytes := 5888 * 16 + 6, periods := 256 } 5 = .ok 264 ∧
      measure { oddTransfer with periodBytes := 5889 * 16 + 6, periods := 256 } 5 =
        .error .programTooLarge ∧
      measure { oddTransfer with periodBytes := 5888 * 16 + 6, periods := 257 } 5 =
        .error .programTooLarge ∧
      ∀ distance ∈
        { oddTransfer with periodBytes := 5888 * 16 + 6, periods := 256 }.distances 5,
        distance ≤ 255 := by
  have hlongest : measure { oddTransfer with periodBytes := 5888 * 16 + 6, periods := 256 } 5 =
      .ok 264 := (measure_exact _ 5).1.trans (by decide)
  have hfits :=
    (measure_exact { oddTransfer with periodBytes := 5888 * 16 + 6, periods := 256 } 5).2.2
  exact ⟨hlongest, (measure_exact _ 5).1.trans (by decide), (measure_exact _ 5).1.trans (by decide),
    (hfits.mp (hlongest ▸ rfl)).2⟩

end Program

end CyclicDma
