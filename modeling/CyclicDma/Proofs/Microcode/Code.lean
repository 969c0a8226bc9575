import CyclicDma.Proofs.Microcode.Thread

/-! # Executing structured code

Structured code says how often its blocks are executed; its assembly does it
with hardware loops, which count to 256 and jump over 255 bytes at most.
`Code.executes_assemble` says that a thread which reaches assembled code executes
its instructions in the order in which the structured code unrolls, and then
stands behind it.
-/

namespace CyclicDma

/-! ## Observed instructions -/

namespace ControlWord

/-- The control word that is in force after several instructions. -/
def afterAll (control : ControlWord) (instructions : List Instruction) : ControlWord :=
  instructions.foldl after control

@[simp]
theorem afterAll_nil (control : ControlWord) : control.afterAll [] = control := rfl

@[simp]
theorem afterAll_cons (control : ControlWord) (instruction : Instruction)
    (rest : List Instruction) :
    control.afterAll (instruction :: rest) = (control.after instruction).afterAll rest := rfl

@[simp]
theorem afterAll_append (control : ControlWord) (first second : List Instruction) :
    control.afterAll (first ++ second) = (control.afterAll first).afterAll second :=
  List.foldl_append

end ControlWord

namespace Executed

/-- Instructions that are executed one after the other, with the control words
that are in force. -/
def annotate (control : ControlWord) : List Instruction → List Executed
  | [] => []
  | instruction :: rest =>
      ⟨instruction, control.after instruction⟩ :: annotate (control.after instruction) rest

theorem annotate_append (control : ControlWord) (first second : List Instruction) :
    annotate control (first ++ second) =
      annotate control first ++ annotate (control.afterAll first) second := by
  induction first generalizing control with
  | nil => rfl
  | cons instruction first ih => simp [annotate, ih]

/-- Instructions that are repeated without a lasting change to the control word
are executed in the same way each time. -/
theorem annotate_replicate {control : ControlWord} {instructions : List Instruction}
    (hcontrol : control.afterAll instructions = control) (count : Nat) :
    annotate control (List.replicate count instructions).flatten =
      (List.replicate count (annotate control instructions)).flatten := by
  induction count with
  | zero => rfl
  | succ count ih =>
      simp only [List.replicate_succ, List.flatten_cons]
      rw [annotate_append, hcontrol, ih]

end Executed

theorem ControlWord.afterAll_replicate {control : ControlWord} {instructions : List Instruction}
    (hcontrol : control.afterAll instructions = control) (count : Nat) :
    control.afterAll (List.replicate count instructions).flatten = control := by
  induction count with
  | zero => rfl
  | succ count ih =>
      simp only [List.replicate_succ, List.flatten_cons]
      rw [afterAll_append, hcontrol, ih]

/-- The instruction is no part of a loop, and does not end a program. -/
def Instruction.IsPlain : Instruction → Prop
  | finish | loop .. | loopEnd .. | loopForever .. => False
  | _ => True

namespace Code

/-! ## What structured code means -/

/-- The instructions that structured code executes, in order. -/
def unroll : Code → List Instruction
  | nil => []
  | cons instruction next => instruction :: next.unroll
  | loop _ count block next => (List.replicate count block.unroll).flatten ++ next.unroll

/-- The loop counters that structured code uses. -/
def counters : Code → List LoopCounter
  | nil => []
  | cons _ next => next.counters
  | loop counter _ block next => counter :: (block.counters ++ next.counters)

/-- The code can be executed as it stands: operands fit their places, loops are
blocks, and no block uses the counter of a loop around it. -/
def WellFormed : Code → Prop
  | nil => True
  | cons instruction next => instruction.IsPlain ∧ instruction.InRange ∧ next.WellFormed
  | loop counter _ block next => counter ∉ block.counters ∧ block.WellFormed ∧ next.WellFormed

@[simp]
theorem unroll_prepend (instructions : List Instruction) (next : Code) :
    (prepend instructions next).unroll = instructions ++ next.unroll := by
  induction instructions with
  | nil => rfl
  | cons instruction rest ih => exact congrArg (instruction :: ·) ih

@[simp]
theorem counters_prepend (instructions : List Instruction) (next : Code) :
    (prepend instructions next).counters = next.counters := by
  induction instructions with
  | nil => rfl
  | cons instruction rest ih => exact ih

theorem wellFormed_prepend {instructions : List Instruction} {next : Code}
    (hplain : ∀ instruction ∈ instructions, instruction.IsPlain ∧ instruction.InRange)
    (hnext : next.WellFormed) : (prepend instructions next).WellFormed := by
  induction instructions with
  | nil => exact hnext
  | cons instruction rest ih =>
      obtain ⟨hhead, htail⟩ := List.forall_mem_cons.mp hplain
      exact ⟨hhead.1, hhead.2, ih htail⟩

/-! ## Splitting repetitions -/

theorem sum_splitIterations (count : Nat) : (splitIterations count).sum = count := by
  unfold splitIterations maxIterations
  rw [List.sum_append_nat, List.sum_replicate_nat]
  split
  · simp only [List.sum_nil]
    omega
  · simp only [List.sum_singleton]
    omega

theorem length_splitIterations (count : Nat) :
    (splitIterations count).length = loopsFor count := by
  unfold splitIterations loopsFor maxIterations
  rw [List.length_append, List.length_replicate]
  split
  · simp only [List.length_nil]
    omega
  · simp only [List.length_singleton]
    omega

theorem mem_splitIterations {count iterations : Nat}
    (hmem : iterations ∈ splitIterations count) : 1 ≤ iterations ∧ iterations ≤ 256 := by
  unfold splitIterations maxIterations at hmem
  rcases List.mem_append.mp hmem with hfull | hrest
  · have := List.eq_of_mem_replicate hfull
    omega
  · split at hrest
    · simp at hrest
    · have := List.eq_of_mem_singleton hrest
      omega

/-- One hardware loop around the instructions of a block. -/
def repetition (counter : LoopCounter) (body : List Instruction) (iterations : Nat) :
    List Instruction :=
  .loop counter (UInt16.ofNat iterations) ::
    body ++ [.loopEnd counter .always (UInt8.ofNat (bytesOf body))]

theorem assemble_loop (counter : LoopCounter) (count : Nat) (block next : Code) :
    (loop counter count block next).assemble =
      (splitIterations count).flatMap (repetition counter block.assemble) ++ next.assemble :=
  rfl

/-! ## Sizes -/

@[simp]
theorem bytesOf_nil : bytesOf [] = 0 := rfl

@[simp]
theorem bytesOf_cons (instruction : Instruction) (rest : List Instruction) :
    bytesOf (instruction :: rest) = instruction.size + bytesOf rest :=
  rfl

@[simp]
theorem bytesOf_append (first second : List Instruction) :
    bytesOf (first ++ second) = bytesOf first + bytesOf second := by
  induction first with
  | nil => simp
  | cons instruction rest ih => simp [ih, Nat.add_assoc]

theorem bytesOf_repetition (counter : LoopCounter) (body : List Instruction) (iterations : Nat) :
    bytesOf (repetition counter body iterations) = 4 + bytesOf body := by
  simp only [repetition, bytesOf_cons, bytesOf_append, bytesOf_nil, Instruction.size,
    List.cons_append]
  omega

theorem bytesOf_repetitions (counter : LoopCounter) (body : List Instruction)
    (iterations : List Nat) :
    bytesOf (iterations.flatMap (repetition counter body)) =
      iterations.length * (4 + bytesOf body) := by
  induction iterations with
  | nil => simp
  | cons first rest ih =>
      rw [List.flatMap_cons, bytesOf_append, bytesOf_repetition, ih, List.length_cons,
        Nat.succ_mul, Nat.add_comm]

/-- The size that is found without assembling is the size of the assembled
code. -/
theorem bytesOf_assemble {code : Code} {size : Nat} (hsize : code.size? = some size) :
    bytesOf code.assemble = size := by
  induction code generalizing size with
  | nil =>
      cases hsize
      rfl
  | cons instruction next ih =>
      simp only [size?, Option.map_eq_some_iff] at hsize
      obtain ⟨rest, hrest, rfl⟩ := hsize
      rw [assemble, bytesOf_cons, ih hrest]
  | loop counter count block next ihblock ihnext =>
      rw [assemble_loop, bytesOf_append, bytesOf_repetitions, length_splitIterations]
      simp only [size?] at hsize
      split at hsize
      next hcount =>
        rw [hcount, ihnext hsize]
        simp [loopsFor, maxIterations]
      next =>
        split at hsize
        next body rest hbody hrest =>
          split at hsize
          · cases hsize
            rw [ihblock hbody, ihnext hrest]
          · cases hsize
        next => cases hsize

end Code

/-! ## Executing assembled code -/

namespace Thread

variable {microcode : List UInt8} {thread middle last : Thread}

/-- The thread executes some instructions, moves on by a number of bytes, and
leaves the counters alone that are not listed. -/
structure Executes (microcode : List UInt8) (thread : Thread) (size : Nat)
    (counters : List LoopCounter) (instructions : List Instruction) (last : Thread) : Prop where
  runs : Runs microcode thread (Executed.annotate thread.control instructions) last
  offset : last.offset = thread.offset + size
  control : last.control = thread.control.afterAll instructions
  passes : last.passes = thread.passes
  counters : ∀ counter ∉ counters, last.counters counter = thread.counters counter

theorem Executes.trans {first second : Nat} {before after : List LoopCounter}
    {instructions rest : List Instruction}
    (hfirst : Executes microcode thread first before instructions middle)
    (hsecond : Executes microcode middle second after rest last) :
    Executes microcode thread (first + second) (before ++ after) (instructions ++ rest) last where
  runs := by
    rw [Executed.annotate_append, ← hfirst.control]
    exact hfirst.runs.trans hsecond.runs
  offset := by rw [hsecond.offset, hfirst.offset, Nat.add_assoc]
  control := by rw [hsecond.control, hfirst.control, ControlWord.afterAll_append]
  passes := hsecond.passes.trans hfirst.passes
  counters counter hcounter := by
    rw [List.mem_append, not_or] at hcounter
    rw [hsecond.counters counter hcounter.2, hfirst.counters counter hcounter.1]

theorem Executes.mono {size : Nat} {few many : List LoopCounter}
    {instructions : List Instruction} (hexec : Executes microcode thread size few instructions last)
    (hsubset : few ⊆ many) : Executes microcode thread size many instructions last :=
  { hexec with counters := fun counter hcounter => hexec.counters counter (hcounter <| hsubset ·) }

theorem execute_of_isPlain {instruction : Instruction} (hplain : instruction.IsPlain) :
    thread.execute instruction =
      some ([⟨instruction, thread.control.after instruction⟩],
        { thread with
          offset := thread.offset + instruction.size
          control := thread.control.after instruction }) := by
  cases instruction <;> first | rfl | exact hplain.elim

/-- A plain instruction at the thread's offset is executed. -/
theorem executes_plain {instruction : Instruction} {rest : List Instruction}
    (hplaced : Placed microcode thread.offset (instruction :: rest))
    (hplain : instruction.IsPlain) (hrange : instruction.InRange) :
    ∃ last, Executes microcode thread instruction.size [] [instruction] last := by
  have hstep : thread.step microcode =
      some ([⟨instruction, thread.control.after instruction⟩],
        { thread with
          offset := thread.offset + instruction.size
          control := thread.control.after instruction }) := by
    rw [step, hplaced.decode? hrange, Option.bind_some, execute_of_isPlain hplain]
  exact ⟨_, .of_step hstep, rfl, rfl, rfl, fun _ _ => rfl⟩

/-- The start of a hardware loop stores how often its body is repeated. -/
theorem executes_loop {counter : LoopCounter} {iterations : Nat} {rest : List Instruction}
    (hplaced : Placed microcode thread.offset (.loop counter (.ofNat iterations) :: rest))
    (hfew : 1 ≤ iterations ∧ iterations ≤ 256) :
    ∃ last, Executes microcode thread 2 [counter] [] last ∧
      last.counters counter = iterations - 1 := by
  have hrange : (Instruction.loop counter (.ofNat iterations)).InRange := by
    have hiterations : (UInt16.ofNat iterations - 1) % 256 + 1 = UInt16.ofNat iterations := by
      apply UInt16.toNat_inj.mp
      simp only [UInt16.toNat_add, UInt16.toNat_mod, UInt16.toNat_sub, UInt16.toNat_ofNat',
        UInt16.reduceToNat]
      omega
    rw [Instruction.InRange, Instruction.normalize, hiterations]
  have hstep : thread.step microcode =
      some ([], { thread with offset := thread.offset + 2 }.setCounter counter
        ((UInt16.ofNat iterations).toNat - 1)) := by
    rw [step, hplaced.decode? hrange]
    rfl
  refine ⟨_, ⟨.of_step hstep, rfl, rfl, rfl, fun other hother => ?_⟩, ?_⟩
  · exact if_neg fun heq => hother (List.mem_singleton.mpr heq)
  · simp only [setCounter, if_true, UInt16.toNat_ofNat']
    omega

/-- The body of a hardware loop is executed once more than its counter says. -/
theorem executes_iterations {counter : LoopCounter} {start size : Nat} {body : List LoopCounter}
    {instructions : List Instruction} {rest : List Instruction}
    (hbody : ∀ thread : Thread, thread.offset = start →
      ∃ last, Executes microcode thread size body instructions last)
    (hcounter : counter ∉ body) (hjump : size ≤ Code.maxJump)
    (hend : Placed microcode (start + size) (.loopEnd counter .always (.ofNat size) :: rest))
    (remaining : Nat) (thread : Thread) (hstart : thread.offset = start)
    (hremaining : thread.counters counter = remaining) :
    ∃ last, Executes microcode thread (size + 2) (counter :: body)
      (List.replicate (remaining + 1) instructions).flatten last := by
  -- the counter says how many rounds follow the one that begins
  induction remaining generalizing thread with
  | zero =>
      obtain ⟨middle, hmiddle⟩ := hbody thread hstart
      have hoffset : middle.offset = start + size := by rw [hmiddle.offset, hstart]
      have hzero : middle.counters counter = 0 := by
        rw [hmiddle.counters counter hcounter, hremaining]
      have hstep : middle.step microcode =
          some ([], { middle with offset := middle.offset + 2 }) := by
        rw [step, hoffset, hend.decode? rfl, Option.bind_some, ← hoffset]
        simp [execute, hzero, Instruction.size]
      refine ⟨{ middle with offset := middle.offset + 2 }, ?_⟩
      have hlast : Executes microcode middle 2 [counter] []
          { middle with offset := middle.offset + 2 } :=
        ⟨.of_step hstep, rfl, rfl, rfl, fun _ _ => rfl⟩
      have hused : body ++ [counter] ⊆ counter :: body := fun other => by simp [or_comm]
      simpa using (hmiddle.trans hlast).mono hused
  | succ remaining ih =>
      obtain ⟨middle, hmiddle⟩ := hbody thread hstart
      have hoffset : middle.offset = start + size := by rw [hmiddle.offset, hstart]
      have hcount : middle.counters counter = remaining + 1 := by
        rw [hmiddle.counters counter hcounter, hremaining]
      have hsize : (UInt8.ofNat size).toNat = size := by
        rw [UInt8.toNat_ofNat']
        exact Nat.mod_eq_of_lt (Nat.lt_succ_of_le hjump)
      -- the jump leads back to the start of the body
      let again := { middle.setCounter counter remaining with offset := start }
      have hstep : middle.step microcode = some ([], again) := by
        rw [step, hoffset, hend.decode? rfl, Option.bind_some]
        simp [execute, hcount, jumpBack, hsize, setCounter, hoffset, again]
      obtain ⟨last, hlast⟩ := ih again rfl (by simp [again, setCounter])
      refine ⟨last, ?_, ?_, ?_, ?_, fun other hother => ?_⟩
      · rw [List.replicate_succ, List.flatten_cons, Executed.annotate_append]
        refine hmiddle.runs.trans ((Runs.of_step hstep).trans ?_)
        rw [← hmiddle.control]
        exact hlast.runs
      · rw [hlast.offset, hstart]
      · rw [List.replicate_succ, List.flatten_cons, ControlWord.afterAll_append, ← hmiddle.control]
        exact hlast.control
      · exact hlast.passes.trans hmiddle.passes
      · obtain ⟨hne, hused⟩ := not_or.mp (mt List.mem_cons.mpr hother)
        rw [hlast.counters other hother, ← hmiddle.counters other hused]
        exact if_neg hne

/-- A hardware loop is executed as often as it says. -/
theorem executes_repetition {counter : LoopCounter} {body : List Instruction}
    {used : List LoopCounter} {instructions : List Instruction} {iterations : Nat}
    (hbody : ∀ thread : Thread, Placed microcode thread.offset body →
      ∃ last, Executes microcode thread (Code.bytesOf body) used instructions last)
    (hcounter : counter ∉ used) (hjump : Code.bytesOf body ≤ Code.maxJump)
    (hfew : 1 ≤ iterations ∧ iterations ≤ 256)
    (hplaced : Placed microcode thread.offset (Code.repetition counter body iterations)) :
    ∃ last, Executes microcode thread (4 + Code.bytesOf body) (counter :: used)
      (List.replicate iterations instructions).flatten last := by
  obtain ⟨middle, hmiddle, hcount⟩ := executes_loop hplaced hfew
  have htail : Placed microcode middle.offset
      (body ++ [.loopEnd counter .always (.ofNat (Code.bytesOf body))]) := by
    rw [hmiddle.offset]
    exact hplaced.tail
  obtain ⟨last, hlast⟩ := executes_iterations
    (fun thread hstart => hbody thread (hstart ▸ htail.left)) hcounter hjump htail.right
    (iterations - 1) middle rfl hcount
  refine ⟨last, ?_⟩
  have hused : [counter] ++ (counter :: used) ⊆ counter :: used := fun other => by simp
  have hboth := (hmiddle.trans hlast).mono hused
  have hiterations : iterations - 1 + 1 = iterations := by omega
  have hbytes : 2 + (Code.bytesOf body + 2) = 4 + Code.bytesOf body := by omega
  simpa [hiterations, hbytes] using hboth

/-- Hardware loops one after the other are executed as often as they say
together. -/
theorem executes_repetitions {counter : LoopCounter} {body : List Instruction}
    {used : List LoopCounter} {instructions : List Instruction} {iterations : List Nat}
    (hbody : ∀ thread : Thread, Placed microcode thread.offset body →
      ∃ last, Executes microcode thread (Code.bytesOf body) used instructions last)
    (hcounter : counter ∉ used) (hjump : Code.bytesOf body ≤ Code.maxJump)
    (hfew : ∀ count ∈ iterations, 1 ≤ count ∧ count ≤ 256)
    (hplaced : Placed microcode thread.offset
      (iterations.flatMap (Code.repetition counter body))) :
    ∃ last, Executes microcode thread (iterations.length * (4 + Code.bytesOf body))
      (counter :: used) (List.replicate iterations.sum instructions).flatten last := by
  induction iterations generalizing thread with
  | nil => exact ⟨thread, by simpa using ⟨.refl .., rfl, rfl, rfl, fun _ _ => rfl⟩⟩
  | cons first rest ih =>
      obtain ⟨hfirst, hrest⟩ := List.forall_mem_cons.mp hfew
      obtain ⟨middle, hmiddle⟩ := executes_repetition hbody hcounter hjump hfirst hplaced.left
      have htail := hplaced.right
      rw [Code.bytesOf_repetition, ← hmiddle.offset] at htail
      obtain ⟨last, hlast⟩ := ih hrest htail
      refine ⟨last, ?_⟩
      have hboth := (hmiddle.trans hlast).mono
        (List.append_subset.mpr ⟨List.Subset.refl _, List.Subset.refl _⟩)
      rw [List.sum_cons, ← List.replicate_append_replicate, List.flatten_append, List.length_cons,
        Nat.succ_mul, Nat.add_comm (rest.length * _)]
      exact hboth

end Thread

/-- A thread that reaches assembled code executes what the structured code
unrolls to, and then stands behind it. -/
theorem Code.executes_assemble {microcode : List UInt8} {code : Code} {size : Nat}
    (hformed : code.WellFormed) (hsize : code.size? = some size) (thread : Thread)
    (hplaced : Placed microcode thread.offset code.assemble) :
    ∃ last, Thread.Executes microcode thread size code.counters code.unroll last := by
  induction code generalizing size thread with
  | nil =>
      cases hsize
      exact ⟨thread, .refl .., rfl, rfl, rfl, fun _ _ => rfl⟩
  | cons instruction next ih =>
      obtain ⟨hplain, hrange, hnext⟩ := hformed
      simp only [size?, Option.map_eq_some_iff] at hsize
      obtain ⟨rest, hrest, rfl⟩ := hsize
      obtain ⟨middle, hmiddle⟩ := Thread.executes_plain hplaced hplain hrange
      obtain ⟨last, hlast⟩ := ih hnext hrest middle (hmiddle.offset ▸ hplaced.tail)
      exact ⟨last, hmiddle.trans hlast⟩
  | loop counter count block next ihblock ihnext =>
      obtain ⟨hcounter, hblock, hnext⟩ := hformed
      rw [assemble_loop] at hplaced
      simp only [size?] at hsize
      split at hsize
      next hcount =>
        -- a loop without iterations is not assembled
        subst hcount
        obtain ⟨last, hlast⟩ := ihnext hnext hsize thread hplaced
        refine ⟨last, ?_⟩
        have hused : next.counters ⊆ counter :: (block.counters ++ next.counters) :=
          fun other hother => by simp [hother]
        simpa [unroll, counters] using hlast.mono hused
      next =>
        split at hsize
        next body rest hbody hrest =>
          split at hsize
          next hjump =>
            cases hsize
            -- the block is known by the size that was found for it, the jump by its bytes
            have hbytes := bytesOf_assemble hbody
            obtain ⟨middle, hmiddle⟩ := Thread.executes_repetitions
              (fun thread hplaced => hbytes ▸ ihblock hblock hbody thread hplaced) hcounter
              (hbytes ▸ hjump) (fun _ => mem_splitIterations) hplaced.left
            have htail := hplaced.right
            rw [bytesOf_repetitions, ← hmiddle.offset] at htail
            obtain ⟨last, hlast⟩ := ihnext hnext hrest middle htail
            refine ⟨last, ?_⟩
            have hboth := hmiddle.trans hlast
            rw [sum_splitIterations, length_splitIterations, hbytes] at hboth
            exact hboth
          next => cases hsize
        next => cases hsize

end CyclicDma
