import CyclicDma.Instruction.Encoding

/-! # Microcode with structured loops

`Code` is microcode in which loops are still blocks with a repeat count. A
hardware loop runs at most 256 times and jumps back at most 255 bytes, so
assembling a block splits its repetitions over several hardware loops, and a
block that is too long for a jump cannot be assembled. `Code.size?` is the size
of the assembled code, found without assembling it.
-/

namespace CyclicDma

/-- Instructions and repeated blocks, one after the other. -/
inductive Code where
  | nil
  | cons (instruction : Instruction) (next : Code)
  /-- A block that is executed `count` times, then more code. -/
  | loop (counter : LoopCounter) (count : Nat) (block next : Code)
deriving Repr

namespace Code

/-- The most iterations of one hardware loop. -/
def maxIterations : Nat := 256

/-- The longest jump back, in bytes. -/
def maxJump : Nat := 255

/-- Instructions without loops, in front of more code. -/
def prepend (instructions : List Instruction) (next : Code) : Code :=
  instructions.foldr cons next

/-- The iterations of the hardware loops that execute a block `count` times: as
many full ones as fit, then one with the rest. -/
def splitIterations (count : Nat) : List Nat :=
  List.replicate (count / maxIterations) maxIterations ++
    if count % maxIterations = 0 then [] else [count % maxIterations]

/-- The number of hardware loops that execute a block `count` times. -/
def loopsFor (count : Nat) : Nat :=
  (count + (maxIterations - 1)) / maxIterations

/-- The size of several instructions, in bytes. -/
def bytesOf (instructions : List Instruction) : Nat :=
  instructions.foldr (fun instruction bytes => instruction.size + bytes) 0

/-- The instructions of the code, its blocks closed by jumps to their starts. -/
def assemble : Code → List Instruction
  | nil => []
  | cons instruction next => instruction :: next.assemble
  | loop counter count block next =>
      let body := block.assemble
      let jump := UInt8.ofNat (bytesOf body)
      let repetition (iterations : Nat) : List Instruction :=
        .loop counter (UInt16.ofNat iterations) :: body ++ [.loopEnd counter .always jump]
      (splitIterations count).flatMap repetition ++ next.assemble

/-- The size of the assembled code in bytes, unless some block is longer than a
jump. The start and the end of a hardware loop take two bytes each. A block
that is never executed takes none. -/
def size? : Code → Option Nat
  | nil => some 0
  | cons instruction next => next.size?.map (instruction.size + ·)
  | loop _ count block next =>
      if count = 0 then next.size?
      else
        match block.size?, next.size? with
        | some body, some rest =>
            if body ≤ maxJump then some (loopsFor count * (4 + body) + rest) else none
        | _, _ => none

end Code

end CyclicDma
