import Lockbox.Proofs.Base64.Wrapping
import Lockbox.Proofs.Codec.RoundTrip

/-!
# Encrypting what is encrypted

What a codec makes of a buffer depends only on the bytes that the buffer stands for
(`isEncrypted_eq_of_unwrap_eq`, `decrypt_eq_of_unwrap_eq`). A buffer that counts as a payload stands
for the same bytes once it is shown as Base64, so encryption recognises it and leaves it alone
(`encrypt_encrypted`).
-/

namespace Lockbox
namespace Codec

/-! ## What a buffer stands for -/

section Alike

variable {first second : Bytes}

theorem isEmpty_trim_eq_of_unwrap_eq
    (alike : Base64.Token.unwrap (Bytes.trim first) = Base64.Token.unwrap (Bytes.trim second)) :
    (Bytes.trim first).isEmpty = (Bytes.trim second).isEmpty := by
  have firstBlank : Base64.Token.unwrap (Bytes.trim first) = [] ↔ Bytes.trim first = [] :=
    Base64.Token.unwrap_eq_nil_iff
  rw [alike, Base64.Token.unwrap_eq_nil_iff] at firstBlank
  rw [Bool.eq_iff_iff, List.isEmpty_iff, List.isEmpty_iff, firstBlank]

/-- Buffers that stand for the same bytes are payloads alike. -/
theorem isEncrypted_eq_of_unwrap_eq
    (codec : Codec)
    (alike : Base64.Token.unwrap (Bytes.trim first) = Base64.Token.unwrap (Bytes.trim second)) :
    codec.isEncrypted first = codec.isEncrypted second := by
  rw [isEncrypted, isEncrypted, alike, isEmpty_trim_eq_of_unwrap_eq alike]

/-- Buffers that stand for the same bytes are decrypted alike. -/
theorem decrypt_eq_of_unwrap_eq
    (key : Bytes)
    (alike : Base64.Token.unwrap (Bytes.trim first) = Base64.Token.unwrap (Bytes.trim second)) :
    decrypt first key = decrypt second key := by
  rw [decrypt, decrypt, alike, isEmpty_trim_eq_of_unwrap_eq alike]

end Alike

/-! ## Payloads -/

variable {codec : Codec} {data : Bytes}

theorem trim_ne_nil_of_isEncrypted
    (encrypted : codec.isEncrypted data = true) :
    Bytes.trim data ≠ [] := by
  intro blank
  simp [isEncrypted, blank] at encrypted

/-- A buffer that counts as a payload is a token or long enough to become one. -/
theorem wraps_of_isEncrypted
    (encrypted : codec.isEncrypted data = true) :
    Base64.Token.Wraps (Bytes.trim data) := by
  cases decoded : Base64.Token.decode? (Bytes.trim data) with
  | some payload => exact Or.inl (by rw [decoded]; rfl)
  | none =>
      right
      have plain := Base64.Token.unwrap_of_decode?_eq_none decoded
      simp only [isEncrypted, plain, Bool.or_self, Bool.and_eq_true, Bool.or_eq_true] at encrypted
      rcases encrypted.2 with tagged | ⟨-, shaped⟩
      · obtain ⟨envelope, algorithm, -, bytes⟩ := Envelope.isTagged_iff.mp tagged
        rw [← bytes]
        exact envelope.twelve_le_length_toBytes
      · have long : 32 + Algorithm.xChaCha20Poly1305.nonceLength ≤ (Bytes.trim data).length := by
          simpa [Envelope.looksHeaderless] using shaped
        exact Nat.le_trans (by decide) long

/-- A payload shown as Base64 stands for the same bytes. -/
theorem unwrap_trim_wrap_of_isEncrypted
    (encrypted : codec.isEncrypted data = true) :
    Base64.Token.unwrap (Bytes.trim (Base64.Token.wrap (Bytes.trim data))) =
      Base64.Token.unwrap (Bytes.trim data) := by
  rw [Base64.Token.trim_wrap, Base64.Token.unwrap_wrap (wraps_of_isEncrypted encrypted)]

/-- A token of a payload with a header is recognised by every codec. -/
theorem isEncrypted_of_isTagged
    {payload : Bytes}
    (decoded : Base64.Token.decode? (Bytes.trim data) = some payload)
    (tagged : Envelope.isTagged payload = true) :
    codec.isEncrypted data = true := by
  have notBlank := trim_ne_nil_of_decode? decoded
  simp [isEncrypted, Base64.Token.unwrap_of_decode? decoded, tagged, notBlank]

/-! ## Encryption -/

/-- A payload is shown as Base64, and nothing is drawn. -/
theorem encrypt_of_isEncrypted
    (encrypted : codec.isEncrypted data = true)
    (key : Bytes)
    (source : RandomSource) :
    codec.encrypt data key source =
      (.ok { plaintext := data, ciphertext := Base64.Token.wrap (Bytes.trim data) }, source) := by
  have notBlank := trim_ne_nil_of_isEncrypted encrypted
  have notEmpty : ¬ data.isEmpty = true := by
    intro empty
    rw [List.isEmpty_iff.mp empty] at notBlank
    exact notBlank rfl
  simp only [encrypt, if_neg notEmpty, encrypted, if_true, Encoding.present_of_ne_nil notBlank]
  rfl

/-- What is no payload yet is sealed as what it stands for. -/
theorem seals_of_encrypt_eq_ok
    {key : Bytes}
    {source rest : RandomSource}
    {result : Sealed}
    (plain : codec.isEncrypted data = false)
    (encrypting : codec.encrypt data key source = (.ok result, rest)) :
    result.plaintext = Base64.Token.unwrap data ∧
      codec.sealText result.plaintext key source = (.ok result.ciphertext, rest) := by
  by_cases empty : data.isEmpty = true
  · simp only [encrypt, empty, if_true] at encrypting
    cases encrypting
  · simp only [encrypt, if_neg empty, plain, Bool.false_eq_true, if_false] at encrypting
    cases sealing : codec.sealText (Base64.Token.unwrap data) key source with
    | mk outcome after =>
        cases outcome with
        | error failure =>
            have failed := (run_bind_of_error sealing).symm.trans encrypting
            cases failed
        | ok text =>
            have succeeded := (run_bind_of_ok sealing).symm.trans encrypting
            cases succeeded
            exact ⟨rfl, sealing⟩

theorem sealText_of_encrypt_eq_ok
    {key : Bytes}
    {source rest : RandomSource}
    {result : Sealed}
    (plain : codec.isEncrypted data = false)
    (encrypting : codec.encrypt data key source = (.ok result, rest)) :
    codec.sealText result.plaintext key source = (.ok result.ciphertext, rest) :=
  (seals_of_encrypt_eq_ok plain encrypting).2

/-- What has been encrypted is recognised: encrypting it again, under whatever key, gives the same
text and draws nothing. A buffer that is recognised is decrypted as what encryption makes of it. -/
theorem encrypt_encrypted
    (codec : Codec)
    (data key : Bytes)
    (source : RandomSource) :
    (∀ result rest, codec.encrypt data key source = (.ok result, rest) →
      codec.isEncrypted result.ciphertext = true ∧
      ∀ otherKey otherSource,
        codec.encrypt result.ciphertext otherKey otherSource =
          (.ok { plaintext := result.ciphertext, ciphertext := result.ciphertext },
            otherSource)) ∧
    (codec.isEncrypted data = true →
      ∃ result, codec.encrypt data key source = (.ok result, source) ∧
        ∀ anyKey, decrypt result.ciphertext anyKey = decrypt data anyKey) := by
  constructor
  · intro result rest encrypting
    -- Either way the ciphertext is recognised and is its own Base64 form.
    have settled : codec.isEncrypted result.ciphertext = true ∧
        Base64.Token.wrap (Bytes.trim result.ciphertext) = result.ciphertext := by
      cases encrypted : codec.isEncrypted data with
      | true =>
          rw [encrypt_of_isEncrypted encrypted] at encrypting
          obtain rfl := Except.ok.inj (Prod.mk.inj encrypting).1
          have alike := unwrap_trim_wrap_of_isEncrypted encrypted
          refine ⟨(isEncrypted_eq_of_unwrap_eq codec alike).trans encrypted, ?_⟩
          rw [Base64.Token.trim_wrap, Base64.Token.wrap_wrap (wraps_of_isEncrypted encrypted)]
      | false =>
          obtain ⟨-, cipherKey, nonce, -, -, text⟩ :=
            exists_create_of_sealText_eq_ok (sealText_of_encrypt_eq_ok encrypted encrypting)
          have decoded := Base64.Token.decode?_of_spelling
            (Envelope.twelve_le_length_toBytes
              (.create codec.algorithm cipherKey nonce result.plaintext))
            (Base64.Spelling.refl _)
          have tagged := Envelope.isTagged_iff.mpr
            ⟨.create codec.algorithm cipherKey nonce result.plaintext, codec.algorithm, rfl, rfl⟩
          rw [text]
          refine ⟨isEncrypted_of_isTagged decoded tagged, ?_⟩
          rw [Encoding.toBase64, Base64.trim_encode, Base64.Token.wrap, ← Base64.Token.decode?_trim,
            decoded]
          exact Base64.trim_encode _ _
    refine ⟨settled.1, fun otherKey otherSource => ?_⟩
    rw [encrypt_of_isEncrypted settled.1, settled.2]
  · intro encrypted
    refine ⟨_, encrypt_of_isEncrypted encrypted key source, fun anyKey => ?_⟩
    exact decrypt_eq_of_unwrap_eq anyKey (unwrap_trim_wrap_of_isEncrypted encrypted)

/-- A greeting encrypted again under no key at all, and a buffer that counts as a payload by its
length alone. -/
theorem encrypt_encrypted_samples :
    (∃ ciphertext,
      encrypt {} [0x68, 0x69] (List.replicate 32 0x6B) [.bytes (List.replicate 24 0xFF)] =
          (.ok { plaintext := [0x68, 0x69], ciphertext := ciphertext }, [.bytes []]) ∧
        encrypt {} ciphertext [] [] =
          (.ok { plaintext := ciphertext, ciphertext := ciphertext }, [])) ∧
      ∃ result,
        encrypt { legacyDetection := true } (List.replicate 56 0) [] [] = (.ok result, []) ∧
          decrypt result.ciphertext [] = decrypt (List.replicate 56 0) [] := by
  have encrypting :
      encrypt {} [0x68, 0x69] (List.replicate 32 0x6B) [.bytes (List.replicate 24 0xFF)] =
        (.ok { plaintext := [0x68, 0x69],
               ciphertext := Encoding.toBase64 (Envelope.create .xChaCha20Poly1305
                 ⟨List.replicate 32 0x6B, rfl⟩ ⟨List.replicate 24 0xFF, rfl⟩
                 [0x68, 0x69]).toBytes },
          [.bytes []]) :=
    Prod.ext (by decide +kernel) (by decide +kernel)
  have again := (encrypt_encrypted {} [0x68, 0x69] (List.replicate 32 0x6B) _).1 _ _ encrypting
  have shaped : isEncrypted { legacyDetection := true } (List.replicate 56 0) = true := by
    decide +kernel
  obtain ⟨result, shown, alike⟩ :=
    (encrypt_encrypted { legacyDetection := true } (List.replicate 56 0) [] []).2 shaped
  exact ⟨⟨_, encrypting, again.2 [] []⟩, result, shown, alike []⟩

end Codec
end Lockbox
