import CyclicDma.BitField
import CyclicDma.Register

/-! # What a controller can do

A controller describes itself in its configuration registers. The description is
read once, when the controller is initialized.
-/

namespace CyclicDma

/-- The properties of a controller. -/
structure Device where
  /-- The width of the data bus, in bits. -/
  busWidth : Nat
  /-- The lines of the data buffer. -/
  bufferDepth : Nat
  channels : Nat
  /-- The peripheral request interfaces. -/
  peripherals : Nat
  /-- The events, each with its interrupt line. -/
  events : Nat
  /-- The manager works in the non-secure state. -/
  nonsecure : Bool
  /-- The identification of the controller, one byte per register. -/
  identification : UInt32
deriving DecidableEq, Repr

namespace Device

/-- Bit 0 of the first configuration register: there are request interfaces. -/
def requestsField : BitField := ⟨0, 1⟩

/-- One less than the channels. -/
def channelsField : BitField := ⟨4, 3⟩

/-- One less than the request interfaces, where there are any. -/
def peripheralsField : BitField := ⟨12, 5⟩

/-- One less than the events. -/
def eventsField : BitField := ⟨17, 5⟩

/-- The width of the bus in bytes, as a power of two. -/
def widthField : BitField := ⟨0, 3⟩

/-- One less than the lines of the data buffer. -/
def depthField : BitField := ⟨20, 10⟩

/-- The manager status bit that tells the non-secure state. -/
def nonsecureField : BitField := ⟨9, 1⟩

/-- The identification, put together from its registers with the first byte
lowest. -/
def readIdentification (registers : Registers) : UInt32 :=
  (List.range 4).foldl
    (fun id index =>
      id ||| (registers.read (.identification index) &&& 0xFF) <<< UInt32.ofNat (8 * index))
    0

/-- The controller's description of itself. -/
def ofRegisters (registers : Registers) : Device :=
  let general := registers.read (.configuration 0)
  let data := registers.read .dataConfiguration
  { busWidth := 8 <<< (widthField.get data).toNat
    bufferDepth := (depthField.get data).toNat + 1
    channels := (channelsField.get general).toNat + 1
    peripherals :=
      if requestsField.get general = 0 then 0 else (peripheralsField.get general).toNat + 1
    events := (eventsField.get general).toNat + 1
    nonsecure := nonsecureField.get (registers.read .managerStatus) = 1
    identification := readIdentification registers }

def busBytes (device : Device) : Nat :=
  device.busWidth / 8

end Device

end CyclicDma
