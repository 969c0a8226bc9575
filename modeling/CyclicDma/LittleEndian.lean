/-! # Little-endian numbers

Microcode stores 16 and 32 bit immediates least significant byte first. Joining
the bytes of a number gives the number back.
-/

namespace CyclicDma.LittleEndian

/-- The two bytes of a halfword, least significant first. -/
def splitHalfword (value : UInt16) : List UInt8 :=
  [value.toUInt8, (value >>> 8).toUInt8]

/-- The halfword with the given bytes, least significant first. -/
def joinHalfword (low high : UInt8) : UInt16 :=
  UInt16.ofNat (low.toNat + high.toNat <<< 8)

/-- The four bytes of a word, least significant first. -/
def splitWord (value : UInt32) : List UInt8 :=
  [value.toUInt8, (value >>> 8).toUInt8, (value >>> 16).toUInt8, (value >>> 24).toUInt8]

/-- The word with the given bytes, least significant first. -/
def joinWord (first second third fourth : UInt8) : UInt32 :=
  UInt32.ofNat
    (first.toNat + second.toNat <<< 8 + third.toNat <<< 16 + fourth.toNat <<< 24)

theorem joinHalfword_split (value : UInt16) :
    joinHalfword value.toUInt8 (value >>> 8).toUInt8 = value := by
  apply UInt16.toNat_inj.mp
  have := value.toNat_lt
  simp [joinHalfword, Nat.shiftLeft_eq, Nat.shiftRight_eq_div_pow]
  omega

theorem joinWord_split (value : UInt32) :
    joinWord value.toUInt8 (value >>> 8).toUInt8 (value >>> 16).toUInt8
      (value >>> 24).toUInt8 = value := by
  apply UInt32.toNat_inj.mp
  have := value.toNat_lt
  simp [joinWord, Nat.shiftLeft_eq, Nat.shiftRight_eq_div_pow]
  omega

end CyclicDma.LittleEndian
