import Lockbox.Cipher.ChaCha
import Lockbox.Cipher.Poly1305

/-!
# XChaCha20-Poly1305

The first sixteen bytes of the nonce of twenty-four choose a subkey, the rest is the nonce under
it. Block zero of the keystream is the key of the authenticator, the text is masked from block one
on. The tag covers the masked text, filled up to a multiple of sixteen, and its length.
-/

namespace Lockbox
namespace XChaCha20Poly1305

/-- A block of the keystream under the subkey of a nonce. -/
def streamBlock (key : CipherKey) (nonce : Bytes) (counter : Nat) : FixedBytes 64 :=
  ChaCha.block (ChaCha.subkey key (nonce.take 16))
    (ChaCha.position counter (Bytes.ofNatLE 4 0 ++ nonce.drop 16))

/-- What the tag is computed from. -/
def authenticated (masked : Bytes) : Bytes :=
  masked ++ Bytes.fillTo 16 masked.length ++ Bytes.ofNatLE 8 0 ++ Bytes.ofNatLE 8 masked.length

/-- The cipher. -/
def aead : Aead where
  keystream key nonce count :=
    Keystream.take (by decide) (fun index => streamBlock key nonce (index + 1)) count
  authenticate key nonce masked :=
    Poly1305.tag ((streamBlock key nonce 0).val.take 32) (authenticated masked)

end XChaCha20Poly1305
end Lockbox
