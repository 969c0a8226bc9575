/-! # Bit fields of 32 bit words

Control words and device registers pack several small numbers into one 32 bit
word. A `BitField` says where one of them sits. Reading a field gives the
number that was last stored in it, and storing into a field leaves every bit
outside of it alone.
-/

namespace CyclicDma

/-- A run of `width` bits of a 32 bit word, starting at bit `offset`. -/
structure BitField where
  offset : Nat
  width : Nat
deriving DecidableEq, Repr

namespace BitField

/-- The largest number that the field holds, all of its bits set. -/
def limit (field : BitField) : UInt32 :=
  UInt32.ofNat ((1 <<< field.width) - 1)

/-- The bits of the word that belong to the field. -/
def mask (field : BitField) : UInt32 :=
  field.limit <<< UInt32.ofNat field.offset

/-- The number stored in the field. -/
def get (field : BitField) (word : UInt32) : UInt32 :=
  (word >>> UInt32.ofNat field.offset) &&& field.limit

/-- Store a number in the field. Bits of the number that do not fit are
dropped. -/
def set (field : BitField) (word value : UInt32) : UInt32 :=
  (word &&& ~~~field.mask) ||| ((value &&& field.limit) <<< UInt32.ofNat field.offset)

end BitField

end CyclicDma
