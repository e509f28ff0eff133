import Lockbox.Proofs.Base64.Grammar
import Lockbox.Proofs.Codec.RoundTrip

/-!
# Encrypting what is not yet encrypted

A buffer that does not count as a payload is encrypted as what it stands for, and decryption gives
that back (`decrypt_encrypt`). The Base64 text that comes with it is the buffer itself only for
tokens in the form in which results are shown (`Token.wrap_eq_trim_iff`).
-/

namespace Lockbox
namespace Base64

/-! ## Tokens that are shown as they were -/

/-- A symbol of the standard alphabet is one of the URL-safe alphabet unless it stands for one of
the last two values. -/
theorem Alphabet.urlSafe_contains_symbol
    {value : Nat}
    (small : value < 64)
    (notPlus : standard.symbol value ≠ standard.minusOrPlus)
    (notSolidus : standard.symbol value ≠ standard.lowLineOrSolidus) :
    urlSafe.contains (standard.symbol value) = true := by
  revert value
  decide

/-- A text with neither of the last two standard symbols is the same in both alphabets. -/
theorem encode_eq_encode_urlSafe
    {alphabet : Alphabet}
    {bytes : Bytes}
    (urlSafe : ∀ symbol ∈ encode alphabet bytes,
      symbol ≠ Alphabet.standard.minusOrPlus ∧ symbol ≠ Alphabet.standard.lowLineOrSolidus) :
    encode alphabet bytes = encode .urlSafe bytes := by
  cases alphabet with
  | urlSafe => rfl
  | standard =>
      apply encode_eq_of_contains
      intro symbol member
      obtain ⟨notPlus, notSolidus⟩ := urlSafe symbol member
      rw [encode_eq_map_values] at member
      obtain ⟨value, inValues, rfl⟩ := List.mem_map.mp member
      exact Alphabet.urlSafe_contains_symbol (lt_of_mem_values inValues) notPlus notSolidus

namespace Token

/-- What a token spells is shown as the token exactly when the token is unpadded and URL-safe and
what it spells is no token again. -/
theorem wrap_eq_trim_iff
    {data bytes : Bytes}
    (decoded : decode? data = some bytes) :
    wrap bytes = Bytes.trim data ↔
      (∀ byte ∈ Bytes.trim data, byte ≠ padMark ∧ byte ≠ Alphabet.standard.minusOrPlus ∧
        byte ≠ Alphabet.standard.lowLineOrSolidus) ∧
      decode? bytes = none := by
  constructor
  · intro same
    cases decodedAgain : decode? bytes with
    | some inner =>
        have shorter := length_lt_of_decode? decoded
        have notLonger := length_trimWhile_le Bytes.isBlank bytes
        rw [← same, wrap_of_decode? decodedAgain, Bytes.trim] at shorter
        omega
    | none =>
        refine ⟨?_, rfl⟩
        intro byte member
        rw [← same, wrap_of_decode?_eq_none decodedAgain] at member
        have contained : Alphabet.urlSafe.contains byte = true := contains_of_mem_encode member
        refine ⟨ne_padMark_of_mem_encode member, ?_, ?_⟩
        · rintro rfl
          exact absurd contained (by decide)
        · rintro rfl
          exact absurd contained (by decide)
  · rintro ⟨clean, noToken⟩
    obtain ⟨-, -, alphabet, marks, -, trimmed⟩ := decode?_eq_some_iff.mp decoded
    rw [trimmed] at clean
    have unmarked : marks = 0 := by
      cases marks with
      | zero => rfl
      | succ marks => exact absurd rfl (clean padMark (by simp)).1
    rw [wrap_of_decode?_eq_none noToken, trimmed, unmarked, List.replicate_zero, List.append_nil]
    exact (encode_eq_encode_urlSafe fun symbol member =>
      (clean symbol (List.mem_append_left _ member)).2).symm

end Token
end Base64

namespace Codec

/-- A buffer that is no payload yet is sealed as what it stands for. -/
theorem encrypt_of_draw
    (codec : Codec)
    {data key : Bytes}
    {cipherKey : CipherKey}
    {nonce : FixedBytes codec.algorithm.nonceLength}
    {source rest : RandomSource}
    (nonempty : data ≠ [])
    (plain : codec.isEncrypted data = false)
    (resolved : Key.resolve key = .ok cipherKey)
    (drawn : source.draw codec.algorithm.nonceLength = (some nonce, rest)) :
    codec.encrypt data key source =
      (.ok {
        plaintext := Base64.Token.unwrap data
        ciphertext := Encoding.toBase64 (Envelope.create codec.algorithm cipherKey nonce
          (Base64.Token.unwrap data)).toBytes }, rest) := by
  have notEmpty : ¬ data.isEmpty = true := by simpa using nonempty
  have spells : Base64.Token.unwrap data ≠ [] :=
    fun empty => nonempty (Base64.Token.unwrap_eq_nil_iff.mp empty)
  have sealing := sealText_of_draw codec spells resolved drawn
  simp only [encrypt, if_neg notEmpty, plain, Bool.false_eq_true, if_false]
  exact run_bind_of_ok sealing

/-- What is encrypted for the first time is decrypted under the same key to what the buffer stands
for. A token comes back as text, without the white space around it, exactly when it is unpadded and
URL-safe and does not spell another token. -/
theorem decrypt_encrypt
    (codec : Codec)
    {data key : Bytes}
    {cipherKey : CipherKey}
    {nonce : FixedBytes codec.algorithm.nonceLength}
    {source rest : RandomSource}
    (nonempty : data ≠ [])
    (plain : codec.isEncrypted data = false)
    (resolved : Key.resolve key = .ok cipherKey)
    (drawn : source.draw codec.algorithm.nonceLength = (some nonce, rest))
    (unmarked : holdsPlaintext (Envelope.create codec.algorithm cipherKey nonce
      (Base64.Token.unwrap data)).toBytes = false) :
    ∃ result opened,
      codec.encrypt data key source = (.ok result, rest) ∧
      result.plaintext = Base64.Token.unwrap data ∧
      decrypt result.ciphertext key = .ok opened ∧
      opened.plaintext = Base64.Token.unwrap data ∧
      ∀ bytes, Base64.Token.decode? data = some bytes →
        (opened.encoded = Bytes.trim data ↔
          (∀ byte ∈ Bytes.trim data, byte ≠ Base64.padMark ∧
            byte ≠ Base64.Alphabet.standard.minusOrPlus ∧
            byte ≠ Base64.Alphabet.standard.lowLineOrSolidus) ∧
          Base64.Token.decode? bytes = none) := by
  have spells : Base64.Token.unwrap data ≠ [] :=
    fun empty => nonempty (Base64.Token.unwrap_eq_nil_iff.mp empty)
  have decrypted := decrypt_spelling_create spells resolved unmarked (Base64.Spelling.refl _)
  refine ⟨_, _, encrypt_of_draw codec nonempty plain resolved drawn, rfl, decrypted, rfl, ?_⟩
  intro bytes decoded
  rw [Base64.Token.unwrap_of_decode? decoded]
  exact Base64.Token.wrap_eq_trim_iff decoded

/-- Three words as a token with white space around it, which comes back as text, and a padded token
of another token, which does not. -/
theorem decrypt_encrypt_tokens :
    (∃ result opened,
      encrypt {} (Utf8.encode " Y29ycmVjdCBob3JzZSBiYXR0ZXJ5\n".toList) (List.replicate 32 0x6B)
          [.bytes (List.replicate 24 0xFF)] = (.ok result, [.bytes []]) ∧
        result.plaintext = Utf8.encode "correct horse battery".toList ∧
        decrypt result.ciphertext (List.replicate 32 0x6B) = .ok opened ∧
        opened.plaintext = Utf8.encode "correct horse battery".toList ∧
        opened.encoded = Utf8.encode "Y29ycmVjdCBob3JzZSBiYXR0ZXJ5".toList) ∧
      ∃ result opened,
        encrypt {} (Utf8.encode "ZXhhbXBsZS1zZWNyZXQtdmFsdWU=".toList) (List.replicate 32 0x6B)
            [.bytes (List.replicate 24 0xFF)] = (.ok result, [.bytes []]) ∧
          decrypt result.ciphertext (List.replicate 32 0x6B) = .ok opened ∧
          opened.plaintext = Utf8.encode "example-secret-value".toList ∧
          opened.encoded ≠ Utf8.encode "ZXhhbXBsZS1zZWNyZXQtdmFsdWU=".toList := by
  have resolved : Key.resolve (List.replicate 32 0x6B) = .ok ⟨List.replicate 32 0x6B, rfl⟩ := by
    decide +kernel
  have drawn : RandomSource.draw Algorithm.xChaCha20Poly1305.nonceLength
      [.bytes (List.replicate 24 0xFF)] = (some ⟨List.replicate 24 0xFF, rfl⟩, [.bytes []]) := by
    decide +kernel
  constructor
  · have decoded : Base64.Token.decode? (Utf8.encode " Y29ycmVjdCBob3JzZSBiYXR0ZXJ5\n".toList) =
        some (Utf8.encode "correct horse battery".toList) := by decide +kernel
    have nonempty : Utf8.encode " Y29ycmVjdCBob3JzZSBiYXR0ZXJ5\n".toList ≠ [] := by decide +kernel
    obtain ⟨result, opened, encrypting, standsFor, decrypting, plaintext, shown⟩ :=
      decrypt_encrypt {} nonempty (by decide +kernel) resolved drawn (by decide +kernel)
    rw [Base64.Token.unwrap_of_decode? decoded] at standsFor plaintext
    refine ⟨result, opened, encrypting, standsFor, decrypting, plaintext, ?_⟩
    have asText := (shown _ decoded).mpr ⟨by decide +kernel, by decide +kernel⟩
    exact asText.trans (by decide +kernel)
  · have decoded : Base64.Token.decode? (Utf8.encode "ZXhhbXBsZS1zZWNyZXQtdmFsdWU=".toList) =
        some (Utf8.encode "example-secret-value".toList) := by decide +kernel
    have nonempty : Utf8.encode "ZXhhbXBsZS1zZWNyZXQtdmFsdWU=".toList ≠ [] := by decide +kernel
    obtain ⟨result, opened, encrypting, -, decrypting, plaintext, shown⟩ :=
      decrypt_encrypt {} nonempty (by decide +kernel) resolved drawn (by decide +kernel)
    rw [Base64.Token.unwrap_of_decode? decoded] at plaintext
    refine ⟨result, opened, encrypting, decrypting, plaintext, fun same => ?_⟩
    have trimmed : Bytes.trim (Utf8.encode "ZXhhbXBsZS1zZWNyZXQtdmFsdWU=".toList) =
        Utf8.encode "ZXhhbXBsZS1zZWNyZXQtdmFsdWU=".toList := by decide +kernel
    have noToken := ((shown _ decoded).mp (same.trans trimmed.symm)).2
    exact absurd noToken (by decide +kernel)

end Codec
end Lockbox
