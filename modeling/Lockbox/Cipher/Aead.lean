import Lockbox.Bytes

/-!
# Authenticated encryption

A cipher of this library masks the plaintext with a keystream and puts behind it a tag computed
from the masked text. Decryption recomputes the tag before anything is unmasked. `decrypt?_encrypt`
says that it undoes encryption, `decrypt?_eq_some_iff` that nothing else is accepted.
-/

namespace Lockbox

/-- A 256-bit key. -/
abbrev CipherKey := FixedBytes 32

/-- The length of an authentication tag. -/
def tagLength : Nat := 16

/-- Authenticated encryption by a keystream and a tag over the masked text. -/
structure Aead where
  /-- The first `count` bytes of the keystream of a key and a nonce. -/
  keystream : CipherKey → Bytes → (count : Nat) → FixedBytes count
  /-- The tag of a masked text. -/
  authenticate : CipherKey → Bytes → Bytes → FixedBytes tagLength

namespace Aead

/-- The plaintext masked with the keystream. -/
def mask (aead : Aead) (key : CipherKey) (nonce plaintext : Bytes) : Bytes :=
  Bytes.xor plaintext (aead.keystream key nonce plaintext.length).val

/-- The masked plaintext followed by its tag. -/
def encrypt (aead : Aead) (key : CipherKey) (nonce plaintext : Bytes) : Bytes :=
  let masked := aead.mask key nonce plaintext
  masked ++ (aead.authenticate key nonce masked).val

/-- The plaintext of an encrypted text, unless the tag at its end is not the tag of what precedes
it. -/
def decrypt? (aead : Aead) (key : CipherKey) (nonce sealed : Bytes) : Option Bytes :=
  let masked := sealed.take (sealed.length - tagLength)
  if sealed.drop (sealed.length - tagLength) = (aead.authenticate key nonce masked).val then
    some (aead.mask key nonce masked)
  else none

@[simp] theorem length_mask (aead : Aead) (key : CipherKey) (nonce plaintext : Bytes) :
    (aead.mask key nonce plaintext).length = plaintext.length := by
  simp [mask, (aead.keystream key nonce plaintext.length).property]

/-- Masking twice gives the text back. -/
@[simp] theorem mask_mask (aead : Aead) (key : CipherKey) (nonce plaintext : Bytes) :
    aead.mask key nonce (aead.mask key nonce plaintext) = plaintext := by
  have lengths := aead.length_mask key nonce plaintext
  unfold mask at lengths ⊢
  rw [lengths]
  exact Bytes.xor_xor_cancel _ _ (by simp [(aead.keystream key nonce plaintext.length).property])

@[simp] theorem length_encrypt (aead : Aead) (key : CipherKey) (nonce plaintext : Bytes) :
    (aead.encrypt key nonce plaintext).length = plaintext.length + tagLength := by
  simp [encrypt, (aead.authenticate key nonce (aead.mask key nonce plaintext)).property]

/-- Decrypting under the key and nonce of encryption gives the plaintext back. -/
@[simp] theorem decrypt?_encrypt (aead : Aead) (key : CipherKey) (nonce plaintext : Bytes) :
    aead.decrypt? key nonce (aead.encrypt key nonce plaintext) = some plaintext := by
  unfold decrypt?
  rw [length_encrypt, Nat.add_sub_cancel]
  have length := aead.length_mask key nonce plaintext
  have masked : (aead.encrypt key nonce plaintext).take plaintext.length =
      aead.mask key nonce plaintext := by
    rw [encrypt, ← length]
    exact List.take_left
  have tag : (aead.encrypt key nonce plaintext).drop plaintext.length =
      (aead.authenticate key nonce (aead.mask key nonce plaintext)).val := by
    rw [encrypt, ← length]
    exact List.drop_left
  rw [masked, tag]
  simp

/-- A text is accepted exactly when it is the encrypted form of what it decrypts to. -/
theorem decrypt?_eq_some_iff (aead : Aead) (key : CipherKey) (nonce sealed plaintext : Bytes) :
    aead.decrypt? key nonce sealed = some plaintext ↔
      sealed = aead.encrypt key nonce plaintext := by
  constructor
  · intro opened
    unfold decrypt? at opened
    simp only at opened
    split at opened
    next tagMatches =>
      have unmasked := Option.some.inj opened
      have masked := aead.mask_mask key nonce (sealed.take (sealed.length - tagLength))
      rw [unmasked] at masked
      calc sealed = sealed.take (sealed.length - tagLength) ++
            sealed.drop (sealed.length - tagLength) := (List.take_append_drop _ _).symm
        _ = aead.encrypt key nonce plaintext := by rw [tagMatches, ← masked]; rfl
    next => cases opened
  · intro equality
    rw [equality, decrypt?_encrypt]

end Aead
end Lockbox
