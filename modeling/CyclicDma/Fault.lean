import CyclicDma.Text.Hexadecimal

/-! # Fault types

When a thread faults, its fault type register says why. Each cause has one bit;
several may be set at once.
-/

namespace CyclicDma

/-- The content of a fault type register. -/
structure Fault where
  raw : UInt32
deriving DecidableEq, Repr

namespace Fault

/-- The causes that a message lists, each with its bit. -/
def causes : List (String × Nat) :=
  [("LOCKUP", 31), ("DBG", 30), ("DATA_READ", 18), ("DATA_WRITE", 17), ("INSTR_FETCH", 16),
    ("ST_DATA", 13), ("MFIFO", 12), ("RDWR", 7), ("PERIPH", 6), ("EVENT", 5), ("OPERAND", 1),
    ("UNDEF", 0)]

/-- The bit of a cause, as a message shows it. -/
def bit (fault : Fault) (position : Nat) : String :=
  if fault.raw.toNat.testBit position then "1" else "0"

/-- All causes with their bits. -/
def text (fault : Fault) : String :=
  "DMA_FTR: " ++
    " ".intercalate (causes.map fun (cause, position) => cause ++ " " ++ fault.bit position)

def rawText (fault : Fault) : String :=
  s!"DMA_FTR({Hexadecimal.text fault.raw})"

end Fault

end CyclicDma
