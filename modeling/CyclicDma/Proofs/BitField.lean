import Mathlib
import CyclicDma.BitField

/-! # Laws of bit fields

A field gives back what was stored in it, cut to its width. Storing in a field
changes no other field, and the last number that is stored is the one that
counts. All laws are read off the bits of the words.
-/

namespace CyclicDma

/-! ## Bits of a word -/

/-- Whether a bit of a word is set. -/
def bitOf (word : UInt32) (position : Nat) : Bool :=
  word.toBitVec.getLsbD position

theorem eq_of_bitOf_eq {first second : UInt32}
    (hbits : ∀ position < 32, bitOf first position = bitOf second position) : first = second :=
  UInt32.toBitVec_inj.mp (BitVec.eq_of_getLsbD_eq fun position hposition =>
    hbits position hposition)

theorem bitOf_of_ge {position : Nat} (hge : 32 ≤ position) (word : UInt32) :
    bitOf word position = false :=
  BitVec.getLsbD_of_ge word.toBitVec position hge

@[simp]
theorem bitOf_and (first second : UInt32) (position : Nat) :
    bitOf (first &&& second) position = (bitOf first position && bitOf second position) := by
  simp [bitOf]

@[simp]
theorem bitOf_or (first second : UInt32) (position : Nat) :
    bitOf (first ||| second) position = (bitOf first position || bitOf second position) := by
  simp [bitOf]

theorem bitOf_not {position : Nat} (hposition : position < 32) (word : UInt32) :
    bitOf (~~~word) position = !bitOf word position := by
  simp [bitOf, hposition]

theorem bitOf_shiftLeft {amount : Nat} (hamount : amount < 32) (word : UInt32) (position : Nat) :
    bitOf (word <<< UInt32.ofNat amount) position =
      (decide (position < 32) && decide (amount ≤ position) && bitOf word (position - amount)) := by
  have hmod : amount % 4294967296 % 32 = amount := by omega
  simp [bitOf, hmod, Bool.and_assoc, ← decide_not]

theorem bitOf_shiftRight {amount : Nat} (hamount : amount < 32) (word : UInt32) (position : Nat) :
    bitOf (word >>> UInt32.ofNat amount) position = bitOf word (amount + position) := by
  have hmod : amount % 4294967296 % 32 = amount := by omega
  simp [bitOf, hmod]

namespace BitField

/-- The field lies within a word. -/
def Fits (field : BitField) : Prop :=
  field.offset < 32 ∧ field.offset + field.width ≤ 32

instance (field : BitField) : Decidable field.Fits :=
  inferInstanceAs (Decidable (_ ∧ _))

/-- The fields have no bit in common. -/
def Disjoint (first second : BitField) : Prop :=
  first.offset + first.width ≤ second.offset ∨ second.offset + second.width ≤ first.offset

instance (first second : BitField) : Decidable (first.Disjoint second) :=
  inferInstanceAs (Decidable (_ ∨ _))

variable {field other : BitField}

theorem bitOf_limit (hfits : field.Fits) (position : Nat) :
    bitOf field.limit position = decide (position < field.width) := by
  have hend := hfits.2
  change ((1 <<< field.width - 1) % 2 ^ 32).testBit position = _
  rw [Nat.one_shiftLeft, Nat.testBit_mod_two_pow, Nat.testBit_two_pow_sub_one, Bool.eq_iff_iff]
  simp only [Bool.and_eq_true, decide_eq_true_eq]
  omega

theorem bitOf_mask (hfits : field.Fits) (position : Nat) :
    bitOf field.mask position =
      (decide (field.offset ≤ position) && decide (position < field.offset + field.width)) := by
  have hend := hfits.2
  rw [mask, bitOf_shiftLeft hfits.1, bitOf_limit hfits, Bool.eq_iff_iff]
  simp only [Bool.and_eq_true, decide_eq_true_eq]
  omega

theorem bitOf_get (hfits : field.Fits) (word : UInt32) (position : Nat) :
    bitOf (field.get word) position =
      (decide (position < field.width) && bitOf word (field.offset + position)) := by
  rw [get, bitOf_and, bitOf_shiftRight hfits.1, bitOf_limit hfits, Bool.and_comm]

/-- Storing in a field sets the bits of the field and no other ones. -/
theorem bitOf_set (hfits : field.Fits) (word value : UInt32) (position : Nat) :
    bitOf (field.set word value) position =
      if field.offset ≤ position ∧ position < field.offset + field.width then
        bitOf value (position - field.offset)
      else bitOf word position := by
  have hend := hfits.2
  by_cases hposition : position < 32
  · rw [set, bitOf_or, bitOf_and, bitOf_not hposition, bitOf_mask hfits,
      bitOf_shiftLeft hfits.1, bitOf_and, bitOf_limit hfits]
    split
    next hinside =>
      have hbelow : position - field.offset < field.width := by omega
      simp [hinside, hposition, hbelow]
    next houtside =>
      by_cases hleft : field.offset ≤ position
      · have hright : ¬ position < field.offset + field.width := fun hlt => houtside ⟨hleft, hlt⟩
        have habove : ¬ position - field.offset < field.width := by omega
        simp [hright, habove]
      · simp [hleft]
  · have hge := Nat.le_of_not_lt hposition
    rw [bitOf_of_ge hge, bitOf_of_ge hge, if_neg]
    omega

theorem get_set_self (hfits : field.Fits) (word value : UInt32) :
    field.get (field.set word value) = value &&& field.limit := by
  apply eq_of_bitOf_eq
  intro position _
  rw [bitOf_get hfits, bitOf_set hfits, bitOf_and, bitOf_limit hfits]
  by_cases hposition : position < field.width
  · simp [hposition]
  · simp [hposition]

theorem get_set_of_disjoint (hfits : field.Fits) (hother : other.Fits)
    (hdisjoint : field.Disjoint other) (word value : UInt32) :
    other.get (field.set word value) = other.get word := by
  apply eq_of_bitOf_eq
  intro position _
  rw [bitOf_get hother, bitOf_get hother, bitOf_set hfits]
  by_cases hposition : position < other.width
  · rw [if_neg]
    unfold Disjoint at hdisjoint
    omega
  · simp [hposition]

theorem get_lt (hfits : field.Fits) (word : UInt32) : (field.get word).toNat < 2 ^ field.width := by
  apply Nat.lt_pow_two_of_testBit
  intro position hposition
  have hbit := bitOf_get hfits word position
  rwa [decide_eq_false (Nat.not_lt.mpr hposition), Bool.false_and] at hbit

end BitField

end CyclicDma
