import Lockbox.Proofs.Base64.Wrapping
import Lockbox.Proofs.Codec.Attempts

/-!
# What a decryption vouches for

A buffer can be read in up to three ways (`Reading`). Decryption tries what the buffer stands for
and, only where that is an envelope whose tag does not match, what that spells (`Tried`). It gives a
plaintext exactly if a reading that it tries backs the plaintext, be it by the marker of plaintext
key material or by its tag (`decrypt_eq_ok_iff`).
-/

namespace Lockbox
namespace Codec

/-- The ways to read a buffer: as it is without the white space around it, as what that spells, or
as what that in turn spells. -/
inductive Reading (data : Bytes) : Bytes → Prop
  | plain : Reading data (Bytes.trim data)
  | once {payload : Bytes} (decoded : Base64.Token.decode? (Bytes.trim data) = some payload) :
      Reading data payload
  | twice {payload inner : Bytes} (decoded : Base64.Token.decode? (Bytes.trim data) = some payload)
      (decodedAgain : Base64.Token.decode? payload = some inner) : Reading data inner

/-- The readings of a buffer that decryption tries: what a token spells, the buffer itself if it is
no token, and what a token in a token spells if the tag of the outer one does not match. -/
inductive Tried (cipherKey : CipherKey) (data : Bytes) : Bytes → Prop
  | plain (noToken : Base64.Token.decode? (Bytes.trim data) = none) :
      Tried cipherKey data (Bytes.trim data)
  | once {payload : Bytes} (decoded : Base64.Token.decode? (Bytes.trim data) = some payload) :
      Tried cipherKey data payload
  | twice {payload inner : Bytes} (decoded : Base64.Token.decode? (Bytes.trim data) = some payload)
      (unmarked : holdsPlaintext payload = false)
      (refused : Refuses cipherKey payload)
      (decodedAgain : Base64.Token.decode? payload = some inner) : Tried cipherKey data inner

section Tried

variable {cipherKey : CipherKey} {data key payload inner plaintext : Bytes}

theorem tried_unwrap (cipherKey : CipherKey) (data : Bytes) :
    Tried cipherKey data (Base64.Token.unwrap (Bytes.trim data)) := by
  rw [Base64.Token.unwrap]
  cases decoded : Base64.Token.decode? (Bytes.trim data) with
  | none => exact .plain decoded
  | some payload => exact .once decoded

theorem tried_of_authenticationFailure
    (failed : attempt cipherKey (Base64.Token.unwrap (Bytes.trim data)) =
      .error .authenticationFailure)
    (decodedAgain : Base64.Token.decode? (Base64.Token.unwrap (Bytes.trim data)) = some inner) :
    Tried cipherKey data inner := by
  cases decoded : Base64.Token.decode? (Bytes.trim data) with
  | none =>
      rw [Base64.Token.unwrap_of_decode?_eq_none decoded, decoded] at decodedAgain
      cases decodedAgain
  | some payload =>
      rw [Base64.Token.unwrap_of_decode? decoded] at failed decodedAgain
      obtain ⟨unmarked, refused⟩ := attempt_eq_authenticationFailure_iff.mp failed
      exact .twice decoded unmarked refused decodedAgain

/-- Decryption tries what a buffer stands for, and what that spells once the first attempt has
failed for its tag. -/
theorem tried_iff :
    Tried cipherKey data payload ↔
      payload = Base64.Token.unwrap (Bytes.trim data) ∨
        (attempt cipherKey (Base64.Token.unwrap (Bytes.trim data)) =
            .error .authenticationFailure ∧
          Base64.Token.decode? (Base64.Token.unwrap (Bytes.trim data)) = some payload) := by
  constructor
  · intro tried
    cases tried with
    | plain noToken => exact Or.inl (Base64.Token.unwrap_of_decode?_eq_none noToken).symm
    | once decoded => exact Or.inl (Base64.Token.unwrap_of_decode? decoded).symm
    | twice decoded unmarked refused decodedAgain =>
        rw [Base64.Token.unwrap_of_decode? decoded]
        exact Or.inr ⟨attempt_eq_authenticationFailure_iff.mpr ⟨unmarked, refused⟩, decodedAgain⟩
  · rintro (rfl | ⟨failed, decodedAgain⟩)
    · exact tried_unwrap cipherKey data
    · exact tried_of_authenticationFailure failed decodedAgain

/-- Decryption gives what a reading that it tries gives. -/
theorem decrypt_eq_ok_iff_attempt
    (notBlank : Bytes.trim data ≠ [])
    (resolved : Key.resolve key = .ok cipherKey) :
    (decrypt data key).map Opened.plaintext = .ok plaintext ↔
      ∃ payload, Tried cipherKey data payload ∧
        (attempt cipherKey payload).map Opened.plaintext = .ok plaintext := by
  simp only [tried_iff, or_and_right, exists_or, exists_eq_left]
  rw [decrypt_eq_attempts notBlank resolved]
  generalize Base64.Token.unwrap (Bytes.trim data) = first
  split
  next inner failed decodedAgain => simp [failed, decodedAgain, Except.map]
  next rest =>
    constructor
    · exact Or.inl
    · rintro (given | ⟨inner, ⟨failed, decodedAgain⟩, -⟩)
      · exact given
      · exact absurd decodedAgain (rest inner failed)

/-- Without the marker nothing is decrypted under a key that cannot be used. -/
theorem exists_resolve_of_decrypt_eq_ok
    {opened : Opened}
    (unmarked : holdsPlaintext (Base64.Token.unwrap (Bytes.trim data)) = false)
    (decrypted : decrypt data key = .ok opened) :
    ∃ cipherKey, Key.resolve key = .ok cipherKey := by
  cases resolved : Key.resolve key with
  | ok cipherKey => exact ⟨cipherKey, rfl⟩
  | error failure =>
      rw [decrypt] at decrypted
      split at decrypted
      next => cases decrypted
      next => simp [unmarked, resolved] at decrypted

/-- What is blank gives nothing to try. -/
theorem trim_ne_nil_of_backs
    (tried : Tried cipherKey data payload)
    (backs : Backs cipherKey payload plaintext) :
    Bytes.trim data ≠ [] := by
  intro blank
  have noToken : Base64.Token.decode? (Bytes.trim data) = none := by
    rw [blank]
    rfl
  cases tried with
  | plain =>
      rw [blank] at backs
      rcases backs with ⟨marked, -⟩ | ⟨-, _, parsed, -⟩
      · cases marked
      · cases parsed
  | once decoded => cases noToken.symm.trans decoded
  | twice decoded => cases noToken.symm.trans decoded

/-- Decryption gives a plaintext exactly if a reading that it tries backs the plaintext, which is
not empty. -/
theorem decrypt_eq_ok_iff
    (resolved : Key.resolve key = .ok cipherKey) :
    (decrypt data key).map Opened.plaintext = .ok plaintext ↔
      plaintext ≠ [] ∧ ∃ payload, Tried cipherKey data payload ∧
        Backs cipherKey payload plaintext := by
  constructor
  · intro given
    have notBlank : Bytes.trim data ≠ [] := by
      intro blank
      simp [decrypt, blank, Except.map] at given
    obtain ⟨payload, tried, attempted⟩ := (decrypt_eq_ok_iff_attempt notBlank resolved).mp given
    obtain ⟨nonempty, backs⟩ := attempt_eq_ok_iff.mp attempted
    exact ⟨nonempty, payload, tried, backs⟩
  · rintro ⟨nonempty, payload, tried, backs⟩
    exact (decrypt_eq_ok_iff_attempt (trim_ne_nil_of_backs tried backs) resolved).mpr
      ⟨payload, tried, attempt_eq_ok_iff.mpr ⟨nonempty, backs⟩⟩

end Tried

end Codec
end Lockbox
