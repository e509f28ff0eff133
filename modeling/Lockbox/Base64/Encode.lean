import Lockbox.Base64.Alphabet

/-!
# Base64 encoding

Three bytes become four symbols. One or two left-over bytes become two or three symbols whose
unused low bits are zero, so every buffer has exactly one unpadded form in each alphabet.
-/

namespace Lockbox
namespace Base64

/-- The four six-bit values of three bytes. -/
def sextets (first second third : UInt8) : Nat × Nat × Nat × Nat :=
  (first.toNat / 4, first.toNat % 4 * 16 + second.toNat / 16,
    second.toNat % 16 * 4 + third.toNat / 64, third.toNat % 64)

/-- The unpadded symbols of a buffer. -/
def encode (alphabet : Alphabet) : Bytes → Bytes
  | first :: second :: third :: rest =>
    alphabet.symbol (sextets first second third).1 ::
      alphabet.symbol (sextets first second third).2.1 ::
      alphabet.symbol (sextets first second third).2.2.1 ::
      alphabet.symbol (sextets first second third).2.2.2 :: encode alphabet rest
  | [first, second] =>
    [alphabet.symbol (sextets first second 0).1, alphabet.symbol (sextets first second 0).2.1,
      alphabet.symbol (sextets first second 0).2.2.1]
  | [first] =>
    [alphabet.symbol (sextets first 0 0).1, alphabet.symbol (sextets first 0 0).2.1]
  | [] => []

/-- The symbols of a buffer, filled up to a multiple of four. -/
def encodePadded (alphabet : Alphabet) (bytes : Bytes) : Bytes :=
  let symbols := encode alphabet bytes
  symbols ++ List.replicate ((4 - symbols.length % 4) % 4) padMark

end Base64
end Lockbox
