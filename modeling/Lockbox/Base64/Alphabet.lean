import Lockbox.Bytes

/-!
# Base64 alphabets

The two alphabets agree on the first sixty-two symbols and differ in the last two. A symbol is an
ASCII byte and its value a number below sixty-four.
-/

namespace Lockbox
namespace Base64

/-- Which symbols stand for the values 62 and 63. -/
inductive Alphabet
  /-- Minus and low line. -/
  | urlSafe
  /-- Plus and solidus. -/
  | standard
  deriving DecidableEq, Repr

/-- The mark that fills a last group up to four symbols. -/
def padMark : UInt8 := 0x3D

namespace Alphabet

/-- The symbol for the value 62. -/
def minusOrPlus : Alphabet → UInt8
  | urlSafe => 0x2D
  | standard => 0x2B

/-- The symbol for the value 63. -/
def lowLineOrSolidus : Alphabet → UInt8
  | urlSafe => 0x5F
  | standard => 0x2F

/-- The symbol for a value below sixty-four. -/
def symbol (alphabet : Alphabet) (value : Nat) : UInt8 :=
  if value < 26 then UInt8.ofNat (0x41 + value)
  else if value < 52 then UInt8.ofNat (0x61 + (value - 26))
  else if value < 62 then UInt8.ofNat (0x30 + (value - 52))
  else if value = 62 then alphabet.minusOrPlus
  else alphabet.lowLineOrSolidus

/-- The value of a symbol, for the bytes that are symbols. -/
def value? (alphabet : Alphabet) (symbol : UInt8) : Option Nat :=
  if 0x41 ≤ symbol && symbol ≤ 0x5A then some (symbol.toNat - 0x41)
  else if 0x61 ≤ symbol && symbol ≤ 0x7A then some (symbol.toNat - 0x61 + 26)
  else if 0x30 ≤ symbol && symbol ≤ 0x39 then some (symbol.toNat - 0x30 + 52)
  else if symbol = alphabet.minusOrPlus then some 62
  else if symbol = alphabet.lowLineOrSolidus then some 63
  else none

/-- Whether a byte is a symbol of the alphabet. -/
def contains (alphabet : Alphabet) (symbol : UInt8) : Bool :=
  (alphabet.value? symbol).isSome

end Alphabet
end Base64
end Lockbox
