import CyclicDma.BitField
import CyclicDma.Instruction.Encoding
import CyclicDma.LittleEndian
import CyclicDma.Thread.State

/-! # Commands for threads

Threads are controlled by handing them single instructions through the debug
registers. `DMAKILL` goes to the thread that is to stop; `DMAGO` goes to the
manager, which starts the channel that it names.
-/

namespace CyclicDma

/-- An instruction that is handed to a thread. -/
inductive Command where
  | kill
  /-- Start a channel at the program at an address. -/
  | go (channel : Nat) (address : UInt32) (nonsecure : Bool)
deriving DecidableEq, Repr

namespace Command

/-- The instruction that carries the command. -/
def instruction : Command → Instruction
  | kill => .kill
  | go channel address nonsecure => .go (UInt8.ofNat channel) address nonsecure

/-- The thread that receives a command meant for `thread`. -/
def recipient (command : Command) (thread : ThreadId) : ThreadId :=
  match command with
  | kill => thread
  | go .. => .manager

/-- The six bytes of the command's instruction, with zeros after a short one. -/
def byte (command : Command) (position : Nat) : UInt8 :=
  command.instruction.encode.getD position 0

/-- Bit 0 of the first debug word tells a channel from the manager. -/
def threadField : BitField := ⟨0, 1⟩

/-- The channel number in the first debug word. -/
def channelField : BitField := ⟨8, 3⟩

/-- The first byte of the instruction in the first debug word. -/
def firstByteField : BitField := ⟨16, 8⟩

/-- The second byte of the instruction in the first debug word. -/
def secondByteField : BitField := ⟨24, 8⟩

/-- The first debug word: the receiving thread and two bytes of the
instruction. -/
def firstWord (command : Command) (thread : ThreadId) : UInt32 :=
  let target :=
    match command.recipient thread with
    | .manager => 0
    | .channel number => channelField.set (threadField.set 0 1) (UInt32.ofNat number)
  secondByteField.set (firstByteField.set target (command.byte 0).toUInt32)
    (command.byte 1).toUInt32

/-- The second debug word: the other four bytes of the instruction. -/
def secondWord (command : Command) : UInt32 :=
  LittleEndian.joinWord (command.byte 2) (command.byte 3) (command.byte 4) (command.byte 5)

def text : Command → String
  | kill => "Kill"
  | go channel address nonsecure =>
      s!"Go \x7b channel: {channel}, address: {address}, nonsecure: {nonsecure} \x7d"

end Command

end CyclicDma
