import CyclicDma.Config
import CyclicDma.Proofs.BitField
import CyclicDma.Transfer

/-! # Laws of control words

A setter stores in the two sides of one field, so it leaves every other field
alone. A burst moves the bytes of its shape, which both sides of a control word
may state differently; a control word that was given a shape states it on both.
-/

namespace CyclicDma

namespace ControlWord

/-! ## Sided fields -/

/-- Both sides of the field lie within a word, apart from each other. -/
def SidedField.Fits (field : SidedField) : Prop :=
  field.source.Fits ∧ field.destination.Fits ∧ field.source.Disjoint field.destination

instance (field : SidedField) : Decidable field.Fits :=
  inferInstanceAs (Decidable (_ ∧ _ ∧ _))

/-- A field within a word that is no part of a sided field. -/
def SidedField.Apart (field : SidedField) (other : BitField) : Prop :=
  other.Fits ∧ field.source.Disjoint other ∧ field.destination.Disjoint other

instance (field : SidedField) (other : BitField) : Decidable (field.Apart other) :=
  inferInstanceAs (Decidable (_ ∧ _ ∧ _))

variable {field : SidedField} {other : BitField}

theorem get_setSides_source (hfits : field.Fits) (source destination : UInt32)
    (control : ControlWord) :
    field.source.get (control.setSides field source destination).raw =
      source &&& field.source.limit := by
  have hapart : field.destination.Disjoint field.source := hfits.2.2.symm
  rw [setSides, BitField.get_set_of_disjoint hfits.2.1 hfits.1 hapart,
    BitField.get_set_self hfits.1]

theorem get_setSides_destination (hfits : field.Fits) (source destination : UInt32)
    (control : ControlWord) :
    field.destination.get (control.setSides field source destination).raw =
      destination &&& field.destination.limit := by
  rw [setSides, BitField.get_set_self hfits.2.1]

theorem get_setSides_of_apart (hfits : field.Fits) (hapart : field.Apart other)
    (source destination : UInt32) (control : ControlWord) :
    other.get (control.setSides field source destination).raw = other.get control.raw := by
  rw [setSides, BitField.get_set_of_disjoint hfits.2.1 hapart.1 hapart.2.2,
    BitField.get_set_of_disjoint hfits.1 hapart.1 hapart.2.1]

/-! ## What a burst moves -/

/-- The bytes that a load moves. -/
def loadBytes (control : ControlWord) : Nat :=
  2 ^ (sizeField.source.get control.raw).toNat *
    ((lengthField.source.get control.raw).toNat + 1)

/-- The bytes that a store moves. -/
def storeBytes (control : ControlWord) : Nat :=
  2 ^ (sizeField.destination.get control.raw).toNat *
    ((lengthField.destination.get control.raw).toNat + 1)

/-- Both sides have the same burst shape. -/
def SameShape (control : ControlWord) : Prop :=
  sizeField.source.get control.raw = sizeField.destination.get control.raw ∧
    lengthField.source.get control.raw = lengthField.destination.get control.raw

instance (control : ControlWord) : Decidable control.SameShape :=
  inferInstanceAs (Decidable (_ ∧ _))

/-- The source address increments. -/
def sourceIncrements (control : ControlWord) : Bool :=
  incrementField.source.get control.raw = 1

/-- The destination address increments. -/
def destinationIncrements (control : ControlWord) : Bool :=
  incrementField.destination.get control.raw = 1

theorem storeBytes_eq_loadBytes {control : ControlWord} (hshape : control.SameShape) :
    control.storeBytes = control.loadBytes := by
  rw [storeBytes, loadBytes, hshape.1, hshape.2]

theorem get_size_lt (control : ControlWord) : (sizeField.source.get control.raw).toNat < 8 :=
  BitField.get_lt (by decide) control.raw

theorem get_length_lt (control : ControlWord) : (lengthField.source.get control.raw).toNat < 16 :=
  BitField.get_lt (by decide) control.raw

theorem toNat_burstSize (control : ControlWord) :
    control.burstSize.toNat = 2 ^ (sizeField.source.get control.raw).toNat := by
  have hlt := control.get_size_lt
  have hpow : 2 ^ (sizeField.source.get control.raw).toNat < 2 ^ 32 :=
    Nat.pow_lt_pow_right (by decide) (by omega)
  rw [burstSize, UInt32.toNat_shiftLeft, UInt32.toNat_one, Nat.one_shiftLeft,
    Nat.mod_eq_of_lt (show (sizeField.source.get control.raw).toNat < 32 by omega),
    Nat.mod_eq_of_lt hpow]

theorem toNat_burstLength (control : ControlWord) :
    control.burstLength.toNat = (lengthField.source.get control.raw).toNat + 1 := by
  have hlt := control.get_length_lt
  rw [burstLength, UInt32.toNat_add, UInt32.toNat_one, Nat.mod_eq_of_lt (by omega)]

theorem burstSize_pos (control : ControlWord) : 0 < control.burstSize.toNat := by
  rw [toNat_burstSize]
  exact Nat.two_pow_pos _

theorem burstSize_le (control : ControlWord) : control.burstSize.toNat ≤ 128 := by
  rw [toNat_burstSize]
  exact Nat.pow_le_pow_right (by decide) (Nat.le_of_lt_succ control.get_size_lt)

theorem burstLength_le (control : ControlWord) : control.burstLength.toNat ≤ 16 := by
  have hlt := control.get_length_lt
  rw [toNat_burstLength]
  omega

/-- The bytes of a burst are those that a load moves; their number does not
overflow. -/
theorem toNat_burstBytes (control : ControlWord) : control.burstBytes.toNat = control.loadBytes := by
  have hproduct : control.burstSize.toNat * control.burstLength.toNat ≤ 128 * 16 :=
    Nat.mul_le_mul control.burstSize_le control.burstLength_le
  rw [burstBytes, UInt32.toNat_mul, Nat.mod_eq_of_lt (by omega), toNat_burstSize,
    toNat_burstLength, loadBytes]

theorem loadBytes_pos (control : ControlWord) : 0 < control.loadBytes :=
  Nat.mul_pos (Nat.two_pow_pos _) (Nat.succ_pos _)

/-! ## Setting the shape -/

theorem trailingZeros_two_pow {exponent : Nat} (hlt : exponent < 8) :
    trailingZeros (UInt32.ofNat (2 ^ exponent)) = exponent := by
  have hall : ∀ exponent < 8, trailingZeros (UInt32.ofNat (2 ^ exponent)) = exponent := by
    decide
  exact hall exponent hlt

/-- The size of a beat is a power of two that its field can hold. -/
theorem exists_burstSize_eq (control : ControlWord) :
    ∃ exponent < 8, control.burstSize = UInt32.ofNat (2 ^ exponent) := by
  refine ⟨_, control.get_size_lt, UInt32.toNat_inj.mp ?_⟩
  have hle := control.burstSize_le
  rw [toNat_burstSize] at hle
  rw [toNat_burstSize, UInt32.toNat_ofNat', Nat.mod_eq_of_lt (by omega)]

section Burst

variable (control : ControlWord) {exponent : Nat} {length : UInt32}

theorem get_size_burst (hexponent : exponent < 8) (length : UInt32) :
    sizeField.source.get (control.burst (.ofNat (2 ^ exponent)) length).raw = .ofNat exponent ∧
      sizeField.destination.get (control.burst (.ofNat (2 ^ exponent)) length).raw =
        .ofNat exponent := by
  have hlimit : ∀ exponent < 8, UInt32.ofNat exponent &&& BitField.limit ⟨1, 3⟩ = .ofNat exponent ∧
      UInt32.ofNat exponent &&& BitField.limit ⟨15, 3⟩ = .ofNat exponent := by
    decide
  -- the length is stored behind the size, and its fields are apart
  have hsource : lengthField.Apart sizeField.source := by decide
  have hdestination : lengthField.Apart sizeField.destination := by decide
  rw [burst, trailingZeros_two_pow hexponent, setBoth, setBoth,
    get_setSides_of_apart (by decide) hsource, get_setSides_of_apart (by decide) hdestination,
    get_setSides_source (by decide), get_setSides_destination (by decide)]
  exact hlimit exponent hexponent

omit control in
theorem toNat_sub_one (hlength : 1 ≤ length.toNat) : (length - 1).toNat = length.toNat - 1 := by
  have hle : 1 ≤ length := UInt32.le_iff_toNat_le.mpr hlength
  rw [UInt32.toNat_sub_of_le _ _ hle, UInt32.toNat_one]

theorem get_length_burst (size : UInt32) (hlength : 1 ≤ length.toNat ∧ length.toNat ≤ 16) :
    lengthField.source.get (control.burst size length).raw = length - 1 ∧
      lengthField.destination.get (control.burst size length).raw = length - 1 := by
  have hlimit : ∀ beats < 16, UInt32.ofNat beats &&& BitField.limit ⟨4, 4⟩ = .ofNat beats ∧
      UInt32.ofNat beats &&& BitField.limit ⟨18, 4⟩ = .ofNat beats := by
    decide
  have hbeats : length - 1 = .ofNat (length.toNat - 1) := by
    rw [← toNat_sub_one hlength.1, UInt32.ofNat_toNat]
  rw [burst, setBoth, get_setSides_source (by decide), get_setSides_destination (by decide), hbeats]
  exact hlimit _ (by omega)

theorem sameShape_burst (hexponent : exponent < 8)
    (hlength : 1 ≤ length.toNat ∧ length.toNat ≤ 16) :
    (control.burst (.ofNat (2 ^ exponent)) length).SameShape := by
  obtain ⟨hsource, hdestination⟩ := control.get_size_burst hexponent length
  obtain ⟨hsource', hdestination'⟩ := control.get_length_burst (.ofNat (2 ^ exponent)) hlength
  exact ⟨hsource.trans hdestination.symm, hsource'.trans hdestination'.symm⟩

/-- A burst of a given shape moves the bytes of its beats. -/
theorem loadBytes_burst (hexponent : exponent < 8)
    (hlength : 1 ≤ length.toNat ∧ length.toNat ≤ 16) :
    (control.burst (.ofNat (2 ^ exponent)) length).loadBytes = 2 ^ exponent * length.toNat := by
  have hlast : (length - 1).toNat + 1 = length.toNat := by
    rw [toNat_sub_one hlength.1]
    omega
  rw [loadBytes, (control.get_size_burst hexponent _).1, (control.get_length_burst _ hlength).1,
    hlast, UInt32.toNat_ofNat', Nat.mod_eq_of_lt (by omega)]

theorem sourceIncrements_burst (size : UInt32) :
    (control.burst size length).sourceIncrements = control.sourceIncrements := by
  rw [sourceIncrements, burst, setBoth, setBoth, get_setSides_of_apart (by decide) (by decide),
    get_setSides_of_apart (by decide) (by decide), sourceIncrements]

theorem destinationIncrements_burst (size : UInt32) :
    (control.burst size length).destinationIncrements = control.destinationIncrements := by
  rw [destinationIncrements, burst, setBoth, setBoth,
    get_setSides_of_apart (by decide) (by decide), get_setSides_of_apart (by decide) (by decide),
    destinationIncrements]

end Burst

/-! ## Setting other fields -/

/-- A sided field that is no part of the burst shape. -/
def SidedField.KeepsShape (field : SidedField) : Prop :=
  field.Fits ∧ field.Apart sizeField.source ∧ field.Apart sizeField.destination ∧
    field.Apart lengthField.source ∧ field.Apart lengthField.destination

instance (field : SidedField) : Decidable field.KeepsShape :=
  inferInstanceAs (Decidable (_ ∧ _ ∧ _ ∧ _ ∧ _))

section KeepsShape

variable (hkeeps : field.KeepsShape) (source destination : UInt32) (control : ControlWord)

include hkeeps

theorem burstSize_setSides :
    (control.setSides field source destination).burstSize = control.burstSize := by
  rw [burstSize, get_setSides_of_apart hkeeps.1 hkeeps.2.1, burstSize]

theorem burstLength_setSides :
    (control.setSides field source destination).burstLength = control.burstLength := by
  rw [burstLength, get_setSides_of_apart hkeeps.1 hkeeps.2.2.2.1, burstLength]

theorem sameShape_setSides :
    (control.setSides field source destination).SameShape ↔ control.SameShape := by
  obtain ⟨hfits, hsize, hsize', hlength, hlength'⟩ := hkeeps
  rw [SameShape, get_setSides_of_apart hfits hsize, get_setSides_of_apart hfits hsize',
    get_setSides_of_apart hfits hlength, get_setSides_of_apart hfits hlength', SameShape]

end KeepsShape

theorem sourceIncrements_increment (source destination : Bool) (control : ControlWord) :
    (control.increment source destination).sourceIncrements = source := by
  rw [sourceIncrements, increment, get_setSides_source (by decide)]
  cases source <;> rfl

theorem destinationIncrements_increment (source destination : Bool) (control : ControlWord) :
    (control.increment source destination).destinationIncrements = destination := by
  rw [destinationIncrements, increment, get_setSides_destination (by decide)]
  cases destination <;> rfl

end ControlWord

/-! ## The control word of a transfer -/

namespace Direction

/-- The transfer reads from memory. -/
def readsMemory : Direction → Bool
  | memoryToMemory | memoryToPeripheral _ => true
  | peripheralToMemory _ => false

/-- The transfer writes to memory. -/
def writesMemory : Direction → Bool
  | memoryToMemory | peripheralToMemory _ => true
  | memoryToPeripheral _ => false

theorem control_eq_increment (direction : Direction) (control : ControlWord) :
    direction.control control =
      control.increment direction.readsMemory direction.writesMemory := by
  cases direction <;> rfl

end Direction

namespace Config

variable {config : Config} {device : Device}

theorem SupportedBy.exists_size (hsupported : config.SupportedBy device) :
    ∃ exponent ≤ 4, config.burstSize.toUInt32 = UInt32.ofNat (2 ^ exponent) := by
  have hsize := hsupported.1
  simp only [List.mem_cons, List.not_mem_nil, or_false] at hsize
  rcases hsize with hsize | hsize | hsize | hsize | hsize
  · exact ⟨0, by decide, UInt32.toNat_inj.mp hsize⟩
  · exact ⟨1, by decide, UInt32.toNat_inj.mp hsize⟩
  · exact ⟨2, by decide, UInt32.toNat_inj.mp hsize⟩
  · exact ⟨3, by decide, UInt32.toNat_inj.mp hsize⟩
  · exact ⟨4, by decide, UInt32.toNat_inj.mp hsize⟩

variable (hsupported : config.SupportedBy device) (direction : Direction)

include hsupported

/-- A transfer has the burst shape of the configuration, on both sides. -/
theorem SupportedBy.sameShape : (direction.control config.control).SameShape := by
  obtain ⟨exponent, hexponent, hsize⟩ := hsupported.exists_size
  have hlength : 1 ≤ config.burstLength.toUInt32.toNat ∧ config.burstLength.toUInt32.toNat ≤ 16 :=
    hsupported.2.2
  -- what is set after the shape lies apart from it
  rw [direction.control_eq_increment, ControlWord.increment,
    ControlWord.sameShape_setSides (by decide), control, ControlWord.cache, ControlWord.setBoth,
    ControlWord.sameShape_setSides (by decide), ControlWord.protection, ControlWord.setBoth,
    ControlWord.sameShape_setSides (by decide), hsize]
  exact ControlWord.sameShape_burst _ (by omega) hlength

theorem SupportedBy.burstSize_eq :
    (direction.control config.control).burstSize = config.burstSize.toUInt32 := by
  obtain ⟨exponent, hexponent, hsize⟩ := hsupported.exists_size
  have hpow : 2 ^ exponent ≤ 2 ^ 4 := Nat.pow_le_pow_right (by decide) hexponent
  rw [direction.control_eq_increment, ControlWord.increment,
    ControlWord.burstSize_setSides (by decide), control, ControlWord.cache, ControlWord.setBoth,
    ControlWord.burstSize_setSides (by decide), ControlWord.protection, ControlWord.setBoth,
    ControlWord.burstSize_setSides (by decide), hsize]
  apply UInt32.toNat_inj.mp
  rw [ControlWord.toNat_burstSize, (ControlWord.get_size_burst _ (by omega) _).1,
    UInt32.toNat_ofNat', UInt32.toNat_ofNat', Nat.mod_eq_of_lt (by omega),
    Nat.mod_eq_of_lt (by omega)]

theorem SupportedBy.burstLength_eq :
    (direction.control config.control).burstLength = config.burstLength.toUInt32 := by
  have hlength : 1 ≤ config.burstLength.toUInt32.toNat ∧ config.burstLength.toUInt32.toNat ≤ 16 :=
    hsupported.2.2
  rw [direction.control_eq_increment, ControlWord.increment,
    ControlWord.burstLength_setSides (by decide), control, ControlWord.cache, ControlWord.setBoth,
    ControlWord.burstLength_setSides (by decide), ControlWord.protection, ControlWord.setBoth,
    ControlWord.burstLength_setSides (by decide), ControlWord.burstLength,
    (ControlWord.get_length_burst _ _ hlength).1, UInt32.sub_add_cancel]

theorem SupportedBy.burstSize_le : (direction.control config.control).burstSize ≤ 16 := by
  have hsize := hsupported.1
  simp only [List.mem_cons, List.not_mem_nil, or_false] at hsize
  rw [hsupported.burstSize_eq, UInt32.le_iff_toNat_le]
  change config.burstSize.toNat ≤ 16
  omega

end Config

end CyclicDma
