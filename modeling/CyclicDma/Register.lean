import CyclicDma.Instruction

/-! # The register file

The registers of the controller, their byte offsets, and their contents. Reads
and writes have no side effects: what hardware does on its own is a change from
outside.
-/

namespace CyclicDma

/-- A register of the controller. Channels are numbered from zero. -/
inductive Register where
  | managerStatus
  | managerCounter
  /-- The events that raise their interrupt line. -/
  | interruptEnable
  /-- The events that were signalled. -/
  | eventStatus
  /-- The interrupt lines that are raised. -/
  | interruptStatus
  /-- Writing acknowledges events. -/
  | interruptClear
  /-- Bit 0: the manager has faulted. -/
  | managerFaultStatus
  /-- The channels that have faulted. -/
  | channelFaultStatus
  /-- Why the manager faulted. -/
  | managerFaultType
  /-- Why the channel faulted. -/
  | faultType (channel : Nat)
  | status (channel : Nat)
  | counter (channel : Nat)
  | source (channel : Nat)
  | destination (channel : Nat)
  | control (channel : Nat)
  | loopCounter (which : LoopCounter) (channel : Nat)
  /-- Bit 0: the debug interface is busy. -/
  | debugStatus
  /-- Writing hands over the debug instruction. -/
  | debugCommand
  /-- The thread, and the first two bytes of the debug instruction. -/
  | debugInstruction0
  /-- The last four bytes of the debug instruction. -/
  | debugInstruction1
  /-- One of the five configuration registers. -/
  | configuration (index : Nat)
  /-- The data bus and buffer of the controller. -/
  | dataConfiguration
  | watchdog
  /-- A byte of the peripheral identification. -/
  | identification (index : Nat)
deriving DecidableEq, Repr

namespace Register

/-- The most channels that a controller has. -/
def maxChannels : Nat := 8

def offset : Register → Nat
  | managerStatus => 0x000
  | managerCounter => 0x004
  | interruptEnable => 0x020
  | eventStatus => 0x024
  | interruptStatus => 0x028
  | interruptClear => 0x02C
  | managerFaultStatus => 0x030
  | channelFaultStatus => 0x034
  | managerFaultType => 0x038
  | faultType channel => 0x040 + 4 * channel
  | status channel => 0x100 + 8 * channel
  | counter channel => 0x104 + 8 * channel
  | source channel => 0x400 + 32 * channel
  | destination channel => 0x404 + 32 * channel
  | control channel => 0x408 + 32 * channel
  | loopCounter .zero channel => 0x40C + 32 * channel
  | loopCounter .one channel => 0x410 + 32 * channel
  | debugStatus => 0xD00
  | debugCommand => 0xD04
  | debugInstruction0 => 0xD08
  | debugInstruction1 => 0xD0C
  | configuration index => 0xE00 + 4 * index
  | dataConfiguration => 0xE14
  | watchdog => 0xE80
  | identification index => 0xFE0 + 4 * index

/-- The registers of one channel. -/
def ofChannel (channel : Nat) : List Register :=
  [faultType channel, status channel, counter channel, source channel, destination channel,
    control channel, loopCounter .zero channel, loopCounter .one channel]

/-- The registers that all channels share. -/
def shared : List Register :=
  [managerStatus, managerCounter, interruptEnable, eventStatus, interruptStatus, interruptClear,
    managerFaultStatus, channelFaultStatus, managerFaultType, debugStatus, debugCommand,
    debugInstruction0, debugInstruction1, dataConfiguration, watchdog] ++
    (List.range 5).map configuration ++ (List.range 4).map identification

def all : List Register :=
  shared ++ (List.range maxChannels).flatMap ofChannel

def ofOffset? (offset : Nat) : Option Register :=
  all.find? (·.offset = offset)

end Register

/-- The contents of all registers. -/
structure Registers where
  read : Register → UInt32

namespace Registers

def zero : Registers := ⟨fun _ => 0⟩

def write (registers : Registers) (register : Register) (value : UInt32) : Registers :=
  ⟨fun other => if other = register then value else registers.read other⟩

@[simp]
theorem read_write_self (registers : Registers) (register : Register) (value : UInt32) :
    (registers.write register value).read register = value := by
  simp [write]

theorem read_write_of_ne (registers : Registers) {register other : Register} (value : UInt32)
    (different : other ≠ register) :
    (registers.write register value).read other = registers.read other := by
  simp [write, different]

end Registers

end CyclicDma
