import CyclicDma.Proofs.Program.Trace

/-! # What a cyclic program means

A program that was written is executed from its start: it never gets stuck, it
moves pass after pass of its transfer, and each pass ends where the program
jumps back forever. The trace says what was executed, so the bytes and events of
a period are read off it.
-/

namespace CyclicDma

/-! ## The code of a pass -/

namespace Instruction

theorem mod_of_lt {number : UInt8} (hlt : number < 32) : number % 32 = number := by
  apply UInt8.toNat_inj.mp
  rw [UInt8.toNat_mod]
  exact Nat.mod_eq_of_lt (UInt8.lt_iff_toNat_lt.mp hlt)

/-- The instruction can stand in structured code. -/
def Ordinary (instruction : Instruction) : Prop :=
  instruction.IsPlain ∧ instruction.InRange

theorem ordinary_move (target : MoveTarget) (value : UInt32) : (move target value).Ordinary :=
  ⟨trivial, rfl⟩

end Instruction

namespace Direction

variable {direction : Direction}

theorem ordinary_moveBurst
    (hperipheral : ∀ peripheral ∈ direction.peripheral?, peripheral < 32) :
    ∀ instruction ∈ direction.moveBurst, instruction.Ordinary := by
  intro instruction hmem
  cases direction with
  | memoryToMemory =>
      simp only [moveBurst, List.mem_cons, List.not_mem_nil, or_false] at hmem
      rcases hmem with rfl | rfl <;> exact ⟨trivial, rfl⟩
  | memoryToPeripheral peripheral | peripheralToMemory peripheral =>
      have hmod := Instruction.mod_of_lt (hperipheral peripheral rfl)
      simp only [moveBurst, List.mem_cons, List.not_mem_nil, or_false] at hmem
      rcases hmem with rfl | rfl | rfl <;>
        exact ⟨trivial, by simp only [Instruction.InRange, Instruction.normalize, hmod]⟩

theorem ordinary_flush
    (hperipheral : ∀ peripheral ∈ direction.peripheral?, peripheral < 32) :
    ∀ instruction ∈ direction.flush, instruction.Ordinary := by
  intro instruction hmem
  obtain ⟨peripheral, hpace, rfl⟩ := List.mem_map.mp hmem
  have hmod := Instruction.mod_of_lt (hperipheral peripheral (Option.mem_toList.mp hpace))
  exact ⟨trivial, by simp only [Instruction.InRange, Instruction.normalize, hmod]⟩

end Direction

namespace Transfer

variable {transfer : Transfer} {event : UInt8}

theorem ordinary_moveShort
    (hperipheral : ∀ peripheral ∈ transfer.direction.peripheral?, peripheral < 32)
    (size length : UInt32) :
    ∀ instruction ∈ transfer.moveShort size length, instruction.Ordinary :=
  List.forall_mem_cons.mpr
    ⟨Instruction.ordinary_move .., Direction.ordinary_moveBurst hperipheral⟩

theorem ordinary_moveRemainder
    (hperipheral : ∀ peripheral ∈ transfer.direction.peripheral?, peripheral < 32) :
    ∀ instruction ∈ transfer.moveRemainder, instruction.Ordinary := by
  unfold moveRemainder
  apply forall_mem_unless
  refine List.forall_mem_append.mpr ⟨List.forall_mem_append.mpr ⟨?_, ?_⟩, ?_⟩
  · exact forall_mem_unless (ordinary_moveShort hperipheral _ _)
  · exact forall_mem_unless (ordinary_moveShort hperipheral _ _)
  · exact List.forall_mem_singleton.mpr (Instruction.ordinary_move ..)

theorem wellFormed_period
    (hperipheral : ∀ peripheral ∈ transfer.direction.peripheral?, peripheral < 32)
    (hevent : event < 32) : (transfer.period event).WellFormed := by
  have hsignal : (Instruction.signalEvent event).Ordinary :=
    ⟨trivial, by
      simp only [Instruction.InRange, Instruction.normalize, Instruction.mod_of_lt hevent]⟩
  have hafter : ∀ instruction ∈ transfer.moveRemainder ++ [.signalEvent event],
      instruction.Ordinary :=
    List.forall_mem_append.mpr
      ⟨ordinary_moveRemainder hperipheral, List.forall_mem_singleton.mpr hsignal⟩
  refine Code.wellFormed_prepend (Direction.ordinary_flush hperipheral) ⟨?_, ?_, ?_⟩
  · simp [Code.counters]
  · exact Code.wellFormed_prepend (Direction.ordinary_moveBurst hperipheral) trivial
  · exact Code.wellFormed_prepend hafter trivial

/-- The loop over the periods and the loop over the bursts of a period use
different counters. -/
theorem wellFormed_pass
    (hperipheral : ∀ peripheral ∈ transfer.direction.peripheral?, peripheral < 32)
    (hevent : event < 32) : (transfer.pass event).WellFormed := by
  have haddresses : ∀ instruction ∈
      [Instruction.move .source transfer.source, .move .destination transfer.destination],
      instruction.Ordinary := by
    intro instruction hmem
    simp only [List.mem_cons, List.not_mem_nil, or_false] at hmem
    rcases hmem with rfl | rfl <;> exact Instruction.ordinary_move ..
  refine Code.wellFormed_prepend haddresses ⟨?_, wellFormed_period hperipheral hevent, trivial⟩
  simp [period, Code.counters]

/-! ## Passes -/

/-- The program of a transfer stands at the start of some microcode. Its operands
fit their places, and its last jump reaches back over a pass of the given
size. -/
structure Programmed (transfer : Transfer) (event : UInt8) (microcode : List UInt8)
    (size : Nat) : Prop where
  peripheral_lt : ∀ peripheral ∈ transfer.direction.peripheral?, peripheral < 32
  event_lt : event < 32
  size_eq : (transfer.pass event).size? = some size
  jump_le : size ≤ Code.maxJump
  placed : Placed microcode 0 (transfer.program event)

namespace Programmed

variable {microcode : List UInt8} {size : Nat} {thread : Thread}

/-- A thread that stands at the start of a pass moves one, and then stands where
the program jumps back. -/
theorem runs_pass (hprogrammed : transfer.Programmed event microcode size)
    (hoffset : thread.offset = 6) (hcontrol : thread.control = transfer.control) :
    ∃ last, Thread.Runs microcode thread (transfer.passTrace event) last ∧
      last.offset = 6 + size ∧ last.control = transfer.control ∧
      last.passes = thread.passes := by
  have hformed := wellFormed_pass hprogrammed.peripheral_lt hprogrammed.event_lt
  have hpass : Placed microcode thread.offset (transfer.pass event).assemble :=
    hoffset ▸ hprogrammed.placed.left.tail
  obtain ⟨last, hlast⟩ := Code.executes_assemble hformed hprogrammed.size_eq thread hpass
  refine ⟨last, ?_, ?_, ?_, hlast.passes⟩
  · rw [← annotate_pass, ← hcontrol]
    exact hlast.runs
  · rw [hlast.offset, hoffset]
  · rw [hlast.control, hcontrol, afterAll_pass]

theorem decode?_forever (hprogrammed : transfer.Programmed event microcode size) :
    Instruction.decode? (microcode.drop (6 + size)) = some (.loopForever .one (.ofNat size)) := by
  have hbytes := Code.bytesOf_assemble hprogrammed.size_eq
  have hafter := hprogrammed.placed.right
  rw [Code.bytesOf_cons, hbytes, Nat.zero_add] at hafter
  exact hafter.decode? rfl

/-- The program jumps back to the start of its pass, forever. -/
theorem runs_forever (hprogrammed : transfer.Programmed event microcode size)
    (hoffset : thread.offset = 6 + size) :
    Thread.Runs microcode thread [] { thread with offset := 6, passes := thread.passes + 1 } := by
  have hback : (UInt8.ofNat size).toNat = size := by
    rw [UInt8.toNat_ofNat']
    exact Nat.mod_eq_of_lt (Nat.lt_succ_of_le hprogrammed.jump_le)
  apply Thread.Runs.of_step
  rw [Thread.step, hoffset, hprogrammed.decode?_forever, Option.bind_some]
  simp [Thread.execute, Thread.jumpBack, hback, hoffset]

/-- However many passes are asked for, the program moves them. -/
theorem runs (hprogrammed : transfer.Programmed event microcode size)
    (hstart : thread.offset = 0) (hfresh : thread.passes = 0) (passes : Nat) :
    ∃ last, Thread.Runs microcode thread (transfer.programTrace event (passes + 1)) last ∧
      last.offset = 6 + size ∧ last.control = transfer.control ∧ last.passes = passes := by
  induction passes with
  | zero =>
      -- the control word is loaded once, before the first pass
      have hfirst : Placed microcode thread.offset
          (.move .control transfer.control.raw :: (transfer.pass event).assemble) :=
        hstart ▸ hprogrammed.placed.left
      obtain ⟨middle, hmiddle⟩ := Thread.executes_plain hfirst trivial rfl
      have hpass : middle.offset = 6 := by
        rw [hmiddle.offset, hstart]
        rfl
      obtain ⟨last, hruns, hoffset, hcontrol, hpasses⟩ :=
        hprogrammed.runs_pass hpass hmiddle.control
      refine ⟨last, ?_, hoffset, hcontrol, ?_⟩
      · have htrace : transfer.programTrace event (0 + 1) =
            Executed.annotate thread.control [.move .control transfer.control.raw] ++
              transfer.passTrace event := by
          simp [programTrace, Executed.annotate, ControlWord.after]
        exact htrace ▸ hmiddle.runs.trans hruns
      · rw [hpasses, hmiddle.passes, hfresh]
  | succ passes ih =>
      obtain ⟨middle, hmiddle, hoffset, hcontrol, hpasses⟩ := ih
      have hagain := hprogrammed.runs_forever hoffset
      let again : Thread := { middle with offset := 6, passes := middle.passes + 1 }
      obtain ⟨last, hruns, hend, hlast, hmore⟩ :=
        hprogrammed.runs_pass (show again.offset = 6 from rfl) hcontrol
      refine ⟨last, ?_, hend, hlast, hmore.trans (congrArg (· + 1) hpasses)⟩
      have htrace : transfer.programTrace event (passes + 1 + 1) =
          transfer.programTrace event (passes + 1) ++ ([] ++ transfer.passTrace event) := by
        simp only [programTrace, List.nil_append]
        rw [List.replicate_succ' (n := passes + 1)]
        simp
      exact htrace ▸ hmiddle.trans (hagain.trans hruns)

/-- A thread that starts at the first byte, whatever it did before, never gets
stuck, and moves as many passes as one likes. -/
theorem executes (hprogrammed : transfer.Programmed event microcode size)
    (counters : LoopCounter → Nat) (control : ControlWord) :
    (∀ steps, (Thread.run microcode steps ⟨0, counters, control, 0⟩).isSome) ∧
    ∀ passes, ∃ steps last,
      Thread.run microcode steps ⟨0, counters, control, 0⟩ =
        some (transfer.programTrace event (passes + 1), last) ∧
      last.passes = passes ∧ last.AtForever microcode := by
  have hpasses : ∀ passes, ∃ steps last,
      Thread.run microcode steps ⟨0, counters, control, 0⟩ =
        some (transfer.programTrace event (passes + 1), last) ∧
      last.passes = passes ∧ last.AtForever microcode := by
    intro passes
    obtain ⟨last, ⟨steps, hrun⟩, hoffset, -, hpasses⟩ :=
      hprogrammed.runs (show (Thread.mk 0 counters control 0).offset = 0 from rfl) rfl passes
    refine ⟨steps, last, hrun, hpasses, .one, .ofNat size, ?_⟩
    rw [hoffset]
    exact hprogrammed.decode?_forever
  refine ⟨fun steps => ?_, hpasses⟩
  -- a pass takes a step at least, so that many passes outlast the steps
  obtain ⟨many, last, hrun, hlast, -⟩ := hpasses steps
  have hle : steps ≤ many := by
    have hbound := Thread.passes_le_of_run hrun
    rw [hlast] at hbound
    simpa using hbound
  exact Thread.isSome_run_of_le hle (by rw [hrun]; rfl)

end Programmed

end Transfer

/-! ## Programs that were written -/

namespace Program

variable {transfer : Transfer} {event : UInt8} {size : Nat} {buffer written : List UInt8}

/-- A program is measured for transfers with loops that can jump back. -/
theorem measure_eq_ok (hmeasure : measure transfer event = .ok size) :
    transfer.periods ≠ 0 ∧ transfer.periodBytes ≠ 0 ∧
      ∃ pass, (transfer.pass event).size? = some pass ∧ pass ≤ Code.maxJump ∧
        size = pass + overhead := by
  unfold measure at hmeasure
  split at hmeasure
  next => cases hmeasure
  next hsome =>
    obtain ⟨hperiods, hbytes⟩ := not_or.mp hsome
    refine ⟨hperiods, hbytes, ?_⟩
    split at hmeasure
    next => cases hmeasure
    next pass hpass =>
      split at hmeasure
      next hjump =>
        cases hmeasure
        exact ⟨pass, hpass, hjump, rfl⟩
      next => cases hmeasure

theorem write_eq_ok (hwrite : write transfer event buffer = .ok (size, written)) :
    measure transfer event = .ok size ∧ size ≤ buffer.length ∧
      written = Instruction.encodeAll (transfer.program event) ++ buffer.drop size := by
  unfold write at hwrite
  split at hwrite
  next => cases hwrite
  next measured hmeasure =>
    split at hwrite
    next hfits =>
      cases hwrite
      exact ⟨hmeasure, hfits, rfl⟩
    next => cases hwrite

theorem write_of_measure (hmeasure : measure transfer event = .ok size)
    (hfits : size ≤ buffer.length) :
    write transfer event buffer =
      .ok (size, Instruction.encodeAll (transfer.program event) ++ buffer.drop size) := by
  rw [write, hmeasure]
  exact if_pos hfits

/-- The measured size is the size of the program. -/
theorem length_encodeAll_program (hmeasure : measure transfer event = .ok size) :
    (Instruction.encodeAll (transfer.program event)).length = size := by
  obtain ⟨-, -, pass, hpass, -, rfl⟩ := measure_eq_ok hmeasure
  have hbytes := Code.bytesOf_assemble hpass
  simp only [Instruction.length_encodeAll, Transfer.program, Code.bytesOf_append,
    Code.bytesOf_cons, Code.bytesOf_nil, hbytes, Instruction.size, overhead]
  omega

theorem length_written (hwrite : write transfer event buffer = .ok (size, written)) :
    written.length = buffer.length := by
  obtain ⟨hmeasure, hfits, rfl⟩ := write_eq_ok hwrite
  rw [List.length_append, length_encodeAll_program hmeasure, List.length_drop]
  omega

theorem take_written (hwrite : write transfer event buffer = .ok (size, written)) :
    written.take size = Instruction.encodeAll (transfer.program event) := by
  obtain ⟨hmeasure, -, rfl⟩ := write_eq_ok hwrite
  rw [← length_encodeAll_program hmeasure, List.take_left]

/-- A program that was written moves as many passes of its transfer as one
likes, from the first byte on and whatever the thread did before, and never gets
stuck. Each period loads and stores its bytes and signals its event once. -/
theorem executes_written (hshape : transfer.control.SameShape)
    (hbeat : transfer.control.burstSize ≤ 16)
    (hperipheral : ∀ peripheral ∈ transfer.direction.peripheral?, peripheral < 32)
    (hevent : event < 32) (hwrite : write transfer event buffer = .ok (size, written))
    (counters : LoopCounter → Nat) (control : ControlWord) :
    (∀ steps, (Thread.run (written.take size) steps ⟨0, counters, control, 0⟩).isSome) ∧
    (∀ passes, ∃ steps last,
      Thread.run (written.take size) steps ⟨0, counters, control, 0⟩ =
        some (transfer.programTrace event (passes + 1), last) ∧
      last.passes = passes ∧ last.AtForever (written.take size)) ∧
    (Executed.Moves (transfer.periodTrace event) transfer.periodBytes.toNat ∧
      Executed.events (transfer.periodTrace event) = [event]) ∧
    Executed.Moves (transfer.passTrace event)
        (transfer.periods.toNat * transfer.periodBytes.toNat) ∧
      Executed.events (transfer.passTrace event) =
        List.replicate transfer.periods.toNat event := by
  obtain ⟨hmeasure, -, -⟩ := write_eq_ok hwrite
  obtain ⟨-, -, pass, hpass, hjump, -⟩ := measure_eq_ok hmeasure
  have hprogrammed : transfer.Programmed event (written.take size) pass :=
    ⟨hperipheral, hevent, hpass, hjump, take_written hwrite ▸ List.prefix_rfl⟩
  obtain ⟨hsome, hpasses⟩ := hprogrammed.executes counters control
  exact ⟨hsome, hpasses,
    ⟨Transfer.moves_periodTrace hshape hbeat event, transfer.events_periodTrace event⟩,
    Transfer.moves_passTrace hshape hbeat event, transfer.events_passTrace event⟩

/-- Periods of two bursts, one beat and two bytes, in more periods than a loop
counter holds. -/
def oddTransfer : Transfer where
  control := ControlWord.zero.burst 4 4 |>.increment true false
  direction := .memoryToPeripheral 3
  source := 0x1000
  destination := 0x4000
  periodBytes := 38
  periods := 300

theorem executes_written_oddTransfer :
    ∃ written, write oddTransfer 5 (List.replicate 256 0) = .ok (111, written) ∧
      (∀ steps,
        (Thread.run (written.take 111) steps ⟨0, fun _ => 7, .zero, 0⟩).isSome) ∧
      Executed.Moves (oddTransfer.passTrace 5) (300 * 38) ∧
      Executed.events (oddTransfer.passTrace 5) = List.replicate 300 5 := by
  have hmeasure : measure oddTransfer 5 = .ok 111 := by cbv
  have hwrite : write oddTransfer 5 (List.replicate 256 0) = .ok (111,
      Instruction.encodeAll (oddTransfer.program 5) ++ (List.replicate 256 0).drop 111) :=
    write_of_measure hmeasure (by rw [List.length_replicate]; decide)
  have hperipheral : ∀ peripheral ∈ oddTransfer.direction.peripheral?, peripheral < 32 := by
    rintro _ ⟨⟩
    decide
  obtain ⟨hsome, -, -, hpass⟩ := executes_written (by decide) (by decide) hperipheral (by decide)
    hwrite (fun _ => 7) .zero
  exact ⟨_, hwrite, hsome, hpass⟩

end Program

end CyclicDma
