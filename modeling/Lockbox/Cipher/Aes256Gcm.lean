import Lockbox.Cipher.Aes
import Lockbox.Cipher.Keystream

/-!
# AES-256 in Galois counter mode

The keystream is the encryption of a counter behind the nonce of twelve bytes, from counter two on.
The tag is a polynomial hash of the masked text and its length, masked with the encryption of
counter one.
-/

namespace Lockbox
namespace Aes256Gcm

/-- The reduction of a bit that leaves the field of 2^128 elements. -/
def reduction : Nat := 0xE1 <<< 120

/-- Multiplication in the field of 2^128 elements, over the bits of the first factor from bit
number `bits - 1` down to zero. The highest bit of a number is its lowest coefficient. -/
def multiplyBits (left : Nat) : Nat → Nat → Nat
  | 0, _ => 0
  | bits + 1, right =>
    (if left.testBit bits then right else 0) ^^^
      multiplyBits left bits
        (if right.testBit 0 then (right >>> 1) ^^^ reduction else right >>> 1)

/-- Multiplication in the field of 2^128 elements. -/
def multiply (left right : Nat) : Nat :=
  multiplyBits left 128 right

/-- The polynomial hash of a buffer at a point. -/
def hash (point : Nat) (bytes : Bytes) : Nat :=
  (Bytes.pieces 16 bytes).foldl
    (fun accumulator piece => multiply (accumulator ^^^ Bytes.toNatBE piece) point) 0

/-- The encryption of a counter behind a nonce. -/
def streamBlock (keys : List Aes.Block) (nonce : Bytes) (counter : Nat) : FixedBytes 16 :=
  (Aes.encryptBlock keys (Aes.Block.ofBytes (nonce ++ Bytes.ofNatBE 4 counter))).toBytes

/-- What the tag is computed from; the length is counted in bits. -/
def authenticated (masked : Bytes) : Bytes :=
  masked ++ Bytes.fillTo 16 masked.length ++ Bytes.ofNatBE 8 0 ++
    Bytes.ofNatBE 8 (8 * masked.length)

/-- The tag of a masked text. -/
def tag (key : CipherKey) (nonce masked : Bytes) : FixedBytes tagLength :=
  let keys := Aes.roundKeys key
  let point := Bytes.toNatBE (Aes.encryptBlock keys (Aes.Block.ofBytes [])).toBytes.val
  let hashed := Bytes.ofNatBE 16 (hash point (authenticated masked))
  ⟨Bytes.xor hashed (streamBlock keys nonce 1).val, by
    simp [hashed, tagLength, (streamBlock keys nonce 1).property]⟩

/-- The cipher. -/
def aead : Aead where
  keystream key nonce count :=
    let keys := Aes.roundKeys key
    Keystream.take (by decide) (fun index => streamBlock keys nonce (index + 2)) count
  authenticate := tag

end Aes256Gcm
end Lockbox
