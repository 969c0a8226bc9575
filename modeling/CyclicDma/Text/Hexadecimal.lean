/-! # Hexadecimal numbers in messages

Register values and addresses are written with eight upper case digits, most
significant first, after `0x`.
-/

namespace CyclicDma.Hexadecimal

/-- The digit of a word that stands for sixteen to the power of `place`. -/
def digit (word : UInt32) (place : Nat) : Char :=
  (Nat.digitChar ((word.toNat >>> (4 * place)) % 16)).toUpper

/-- The eight digits of a word, most significant first. -/
def digits (word : UInt32) : List Char :=
  (List.range 8).reverse.map (digit word)

/-- A word as messages write it. -/
def text (word : UInt32) : String :=
  "0x" ++ String.ofList (digits word)

end CyclicDma.Hexadecimal
