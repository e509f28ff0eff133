import Lockbox.Cipher.Aead

/-!
# The Poly1305 authenticator

A message is read as the coefficients of a polynomial over the integers modulo 2^130 - 5, which is
evaluated at a secret point and masked with a secret summand.
-/

namespace Lockbox
namespace Poly1305

/-- The modulus 2^130 - 5. -/
def modulus : Nat := (1 <<< 130) - 5

/-- The bits of the secret point that are kept. -/
def pointMask : Nat := 0x0FFFFFFC0FFFFFFC0FFFFFFC0FFFFFFF

/-- A piece of at most sixteen bytes as a number, with a one bit above its last byte. -/
def coefficient (piece : Bytes) : Nat :=
  Bytes.toNatLE piece + (1 <<< (8 * piece.length))

/-- The tag of a message under a one-time key of thirty-two bytes. -/
def tag (oneTimeKey message : Bytes) : FixedBytes tagLength :=
  let point := Bytes.toNatLE (oneTimeKey.take 16) &&& pointMask
  let summand := Bytes.toNatLE ((oneTimeKey.drop 16).take 16)
  let evaluated := (Bytes.pieces 16 message).foldl
    (fun accumulator piece => (accumulator + coefficient piece) * point % modulus) 0
  ⟨Bytes.ofNatLE 16 (evaluated + summand), by simp [tagLength]⟩

end Poly1305
end Lockbox
