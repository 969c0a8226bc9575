import CyclicDma.BitField

/-! # Channel control words

The control word of a channel says how it accesses the source and the
destination: the burst shape, whether addresses increment, and the protection
and cache attributes of the bus accesses. Each side has its own fields; a cyclic
transfer gives both sides the same shape and attributes. The setters touch
different fields, so their order does not matter.
-/

namespace CyclicDma

/-- The value of a channel control register. -/
structure ControlWord where
  raw : UInt32
deriving DecidableEq, Repr

namespace ControlWord

/-- A field of the source side and its counterpart on the destination side. -/
structure SidedField where
  source : BitField
  destination : BitField

/-- The address increments after each beat. -/
def incrementField : SidedField := ⟨⟨0, 1⟩, ⟨14, 1⟩⟩

/-- The beat size, as a power of two. -/
def sizeField : SidedField := ⟨⟨1, 3⟩, ⟨15, 3⟩⟩

/-- One less than the beats of a burst. -/
def lengthField : SidedField := ⟨⟨4, 4⟩, ⟨18, 4⟩⟩

/-- The protection attributes: bit 0 privileged, bit 1 non-secure. -/
def protectionField : SidedField := ⟨⟨8, 3⟩, ⟨22, 3⟩⟩

def cacheField : SidedField := ⟨⟨11, 3⟩, ⟨25, 3⟩⟩

/-- How bytes are swapped on the way. Both sides share it. -/
def swapField : BitField := ⟨28, 3⟩

/-- Store a number on each side. -/
def setSides (field : SidedField) (source destination : UInt32) (control : ControlWord) :
    ControlWord :=
  ⟨field.destination.set (field.source.set control.raw source) destination⟩

/-- Store one number on both sides. -/
def setBoth (field : SidedField) (value : UInt32) (control : ControlWord) : ControlWord :=
  control.setSides field value value

/-- All fields zero: fixed addresses and bursts of one byte. -/
def zero : ControlWord := ⟨0⟩

instance : Inhabited ControlWord := ⟨zero⟩

/-- The number of zero bits below the lowest set bit of a word, which is the
exponent of a power of two. All 32 bits of zero are below. -/
def trailingZeros (value : UInt32) : Nat :=
  (List.range 32).find? (value.toNat.testBit ·) |>.getD 32

/-- Select which addresses increment after each beat. -/
def increment (source destination : Bool) (control : ControlWord) : ControlWord :=
  control.setSides incrementField source.toUInt32 destination.toUInt32

/-- Set the burst shape: beats of `size` bytes, a power of two, and `length`
beats per burst. -/
def burst (size length : UInt32) (control : ControlWord) : ControlWord :=
  (control.setBoth sizeField (UInt32.ofNat (trailingZeros size))).setBoth
    lengthField (length - 1)

def protection (privileged nonsecure : Bool) (control : ControlWord) : ControlWord :=
  control.setBoth protectionField (privileged.toUInt32 ||| nonsecure.toUInt32 <<< 1)

def cache (bits : UInt8) (control : ControlWord) : ControlWord :=
  control.setBoth cacheField bits.toUInt32

def swap (bits : UInt8) (control : ControlWord) : ControlWord :=
  ⟨swapField.set control.raw bits.toUInt32⟩

/-- The bytes of a beat. -/
def burstSize (control : ControlWord) : UInt32 :=
  1 <<< sizeField.source.get control.raw

/-- The beats of a burst. -/
def burstLength (control : ControlWord) : UInt32 :=
  lengthField.source.get control.raw + 1

/-- The bytes of a burst. -/
def burstBytes (control : ControlWord) : UInt32 :=
  control.burstSize * control.burstLength

end ControlWord

end CyclicDma
