import CyclicDma.ControlWord
import CyclicDma.Program.Code
import CyclicDma.Proofs.Instruction.RoundTrip

/-! # Executing microcode

A channel thread decodes the instruction at its offset and executes it. Loops
only change the counters and the offset; every other instruction is executed
under the control word that is in force, which is what a run is observed to do.
A thread is stuck where nothing decodes, where a jump leaves the microcode, and
at the end of a program.
-/

namespace CyclicDma

/-- An instruction that was executed, and the control word in force once it
was. -/
structure Executed where
  instruction : Instruction
  control : ControlWord
deriving DecidableEq, Repr

/-- The control word that is in force after an instruction. -/
def ControlWord.after (control : ControlWord) : Instruction → ControlWord
  | .move .control value => ⟨value⟩
  | _ => control

/-- A channel thread that executes microcode. -/
structure Thread where
  /-- Where the next instruction starts. -/
  offset : Nat
  /-- The iterations that each counted loop still has after the current one. -/
  counters : LoopCounter → Nat
  control : ControlWord
  /-- How often the thread jumped back forever. -/
  passes : Nat

namespace Thread

/-- Store a number in a loop counter. -/
def setCounter (counter : LoopCounter) (value : Nat) (thread : Thread) : Thread :=
  { thread with
    counters := fun other => if other = counter then value else thread.counters other }

/-- Go back by a number of bytes. -/
def jumpBack (jump : UInt8) (thread : Thread) : Option Thread :=
  if jump.toNat ≤ thread.offset then some { thread with offset := thread.offset - jump.toNat }
  else none

/-- Execute the instruction at the thread's offset. Gives what is observed. -/
def execute (thread : Thread) (instruction : Instruction) : Option (List Executed × Thread) :=
  let next := { thread with offset := thread.offset + instruction.size }
  match instruction with
  | .finish => none
  | .loop counter iterations => some ([], next.setCounter counter (iterations.toNat - 1))
  | .loopEnd counter _ jump =>
      if thread.counters counter = 0 then some ([], next)
      else
        ((thread.setCounter counter (thread.counters counter - 1)).jumpBack jump).map ([], ·)
  | .loopForever _ jump =>
      ({ thread with passes := thread.passes + 1 }.jumpBack jump).map ([], ·)
  | instruction =>
      let control := thread.control.after instruction
      some ([⟨instruction, control⟩], { next with control })

/-- Decode the instruction at the thread's offset and execute it. -/
def step (microcode : List UInt8) (thread : Thread) : Option (List Executed × Thread) :=
  (Instruction.decode? (microcode.drop thread.offset)).bind thread.execute

/-- Execute a number of instructions, loops included. -/
def run (microcode : List UInt8) : (steps : Nat) → Thread → Option (List Executed × Thread)
  | 0, thread => some ([], thread)
  | steps + 1, thread =>
      (thread.step microcode).bind fun (observed, next) =>
        (run microcode steps next).map fun (trace, last) => (observed ++ trace, last)

/-- Executing microcode takes a thread to another one, with the given
observations on the way. -/
def Runs (microcode : List UInt8) (thread : Thread) (trace : List Executed) (last : Thread) :
    Prop :=
  ∃ steps, run microcode steps thread = some (trace, last)

/-- The thread is about to jump back forever. -/
def AtForever (microcode : List UInt8) (thread : Thread) : Prop :=
  ∃ counter jump,
    Instruction.decode? (microcode.drop thread.offset) = some (.loopForever counter jump)

/-! ## Composing runs -/

variable {microcode : List UInt8} {thread middle last : Thread} {trace rest : List Executed}

theorem run_add (first second : Nat) :
    run microcode (first + second) thread =
      (run microcode first thread).bind fun (trace, middle) =>
        (run microcode second middle).map fun (rest, last) => (trace ++ rest, last) := by
  induction first generalizing thread with
  | zero => simp [run]
  | succ first ih =>
      rw [Nat.succ_add, run, run]
      -- a run that gets stuck in its first part is stuck as a whole
      cases hstep : thread.step microcode with
      | none => rfl
      | some observed =>
          simp only [Option.bind_some, ih]
          cases hfirst : run microcode first observed.2 with
          | none => rfl
          | some middle => simp [Function.comp_def]

theorem Runs.refl (microcode : List UInt8) (thread : Thread) : Runs microcode thread [] thread :=
  ⟨0, rfl⟩

theorem Runs.trans (hfirst : Runs microcode thread trace middle)
    (hsecond : Runs microcode middle rest last) :
    Runs microcode thread (trace ++ rest) last := by
  obtain ⟨first, hfirst⟩ := hfirst
  obtain ⟨second, hsecond⟩ := hsecond
  refine ⟨first + second, ?_⟩
  rw [run_add, hfirst]
  simp [hsecond]

theorem Runs.of_step (hstep : thread.step microcode = some (trace, last)) :
    Runs microcode thread trace last :=
  ⟨1, by simp [run, hstep]⟩

/-- A thread that does not get stuck in a number of steps does not get stuck in
fewer. -/
theorem isSome_run_of_le {few many : Nat} (hle : few ≤ many)
    (hmany : (run microcode many thread).isSome) : (run microcode few thread).isSome := by
  obtain ⟨extra, rfl⟩ := Nat.exists_eq_add_of_le hle
  rw [run_add] at hmany
  cases hfew : run microcode few thread with
  | none => simp [hfew] at hmany
  | some reached => rfl

theorem passes_jumpBack {jump : UInt8} (hjump : thread.jumpBack jump = some last) :
    last.passes = thread.passes := by
  unfold jumpBack at hjump
  split at hjump
  · cases hjump
    rfl
  · cases hjump

theorem passes_le_of_step {observed : List Executed}
    (hstep : thread.step microcode = some (observed, last)) : last.passes ≤ thread.passes + 1 := by
  obtain ⟨instruction, -, hexecute⟩ := Option.bind_eq_some_iff.mp hstep
  cases instruction with
  | finish => cases hexecute
  | loop counter iterations =>
      cases hexecute
      exact Nat.le_succ _
  | loopEnd counter condition jump =>
      simp only [execute] at hexecute
      split at hexecute
      · cases hexecute
        exact Nat.le_succ _
      · obtain ⟨back, hback, heq⟩ := Option.map_eq_some_iff.mp hexecute
        cases heq
        exact passes_jumpBack hback ▸ Nat.le_succ _
  | loopForever counter jump =>
      obtain ⟨back, hback, heq⟩ := Option.map_eq_some_iff.mp hexecute
      cases heq
      exact Nat.le_of_eq (passes_jumpBack hback)
  | _ =>
      cases hexecute
      exact Nat.le_succ _

/-- A thread jumps back forever once in a step, at most. -/
theorem passes_le_of_run {steps : Nat} (hrun : run microcode steps thread = some (trace, last)) :
    last.passes ≤ thread.passes + steps := by
  induction steps generalizing thread trace with
  | zero =>
      cases hrun
      exact Nat.le_refl _
  | succ steps ih =>
      obtain ⟨⟨observed, next⟩, hstep, hrest⟩ := Option.bind_eq_some_iff.mp hrun
      obtain ⟨⟨rest, reached⟩, hreached, heq⟩ := Option.map_eq_some_iff.mp hrest
      cases heq
      have hfirst := passes_le_of_step hstep
      have hlater := ih hreached
      omega

end Thread

/-! ## Instructions in place -/

theorem Instruction.length_encodeAll (instructions : List Instruction) :
    (encodeAll instructions).length = Code.bytesOf instructions := by
  induction instructions with
  | nil => rfl
  | cons instruction rest ih =>
      rw [encodeAll_cons, List.length_append, length_encode, ih]
      rfl

/-- The bytes of instructions stand at an offset of microcode. -/
def Placed (microcode : List UInt8) (offset : Nat) (instructions : List Instruction) : Prop :=
  Instruction.encodeAll instructions <+: microcode.drop offset

namespace Placed

variable {microcode : List UInt8} {offset : Nat} {instruction : Instruction}
  {instructions first second : List Instruction}

theorem left (hplaced : Placed microcode offset (first ++ second)) :
    Placed microcode offset first := by
  refine List.IsPrefix.trans ?_ hplaced
  rw [Instruction.encodeAll_append]
  exact List.prefix_append ..

theorem right (hplaced : Placed microcode offset (first ++ second)) :
    Placed microcode (offset + Code.bytesOf first) second := by
  obtain ⟨bytes, hbytes⟩ := hplaced
  refine ⟨bytes, ?_⟩
  rw [← List.drop_drop, ← hbytes, Instruction.encodeAll_append, List.append_assoc,
    ← Instruction.length_encodeAll, List.drop_left]

theorem tail (hplaced : Placed microcode offset (instruction :: instructions)) :
    Placed microcode (offset + instruction.size) instructions := by
  have happend : Placed microcode offset ([instruction] ++ instructions) := hplaced
  simpa [Code.bytesOf] using happend.right

/-- The thread finds the instruction that stands at its offset. -/
theorem decode? (hplaced : Placed microcode offset (instruction :: instructions))
    (hrange : instruction.InRange) :
    Instruction.decode? (microcode.drop offset) = some instruction := by
  obtain ⟨bytes, hbytes⟩ := hplaced
  rw [← hbytes, Instruction.encodeAll_cons, List.append_assoc,
    Instruction.decode?_encode_append_of_inRange hrange]

end Placed

end CyclicDma
