import Lockbox.Proofs.Codec.Idempotence
import Lockbox.Proofs.Codec.Tampering
import Lockbox.Proofs.Codec.Wrapping

/-!
# What is recognised is decrypted

A codec that goes by headers alone recognises a buffer only if decryption finds an envelope wherever
it looks (`exists_parse_of_isEncrypted`). Decryption of such a buffer therefore says something about
a tag, and never that the buffer is malformed (`decrypt_of_isEncrypted`).
-/

namespace Lockbox
namespace Codec

/-- How a decryption ends that found an envelope wherever it looked: it gives a plaintext, or a tag
does not match, or the plaintext of a reading that it tries, whose tag matches, is empty. -/
inductive Settled (cipherKey : CipherKey) (data : Bytes) : Except CodecError Opened → Prop
  | opened (opened : Opened) : Settled cipherKey data (.ok opened)
  | refused : Settled cipherKey data (.error .authenticationFailure)
  | hollow {payload : Bytes}
      (tried : Tried cipherKey data payload)
      (authenticated : Authenticates cipherKey payload []) :
      Settled cipherKey data (.error .nothingToEncode)

section Settled

variable {data : Bytes} {cipherKey : CipherKey}

/-- An attempt at a reading that is an envelope. -/
theorem settled_attempt
    {payload : Bytes}
    {envelope : Envelope}
    (tried : Tried cipherKey data payload)
    (parsed : Envelope.parse payload = .ok envelope) :
    Settled cipherKey data (attempt cipherKey payload) := by
  have ended := attempted_attempt cipherKey payload
  generalize attempt cipherKey payload = outcome at ended ⊢
  cases ended with
  | passed => exact .opened _
  | malformed unmarked refused => cases parsed.symm.trans refused
  | rejected => exact .refused
  | hollow unmarked parsed opened => exact .hollow tried ⟨_, parsed, opened⟩
  | opened => exact .opened _

/-- If a buffer stands for an envelope, and whatever that spells is an envelope too, then decryption
finds an envelope wherever it looks. -/
theorem settled_decrypt
    {key : Bytes}
    {envelope : Envelope}
    (notBlank : Bytes.trim data ≠ [])
    (resolved : Key.resolve key = .ok cipherKey)
    (parsed : Envelope.parse (Base64.Token.unwrap (Bytes.trim data)) = .ok envelope)
    (parsedAgain : ∀ inner,
      Base64.Token.decode? (Base64.Token.unwrap (Bytes.trim data)) = some inner →
      ∃ innerEnvelope, Envelope.parse inner = .ok innerEnvelope) :
    Settled cipherKey data (decrypt data key) := by
  have first : Settled cipherKey data
      (attempt cipherKey (Base64.Token.unwrap (Bytes.trim data))) :=
    settled_attempt (tried_unwrap cipherKey data) parsed
  rw [decrypt_eq_attempts notBlank resolved]
  split
  next inner failed decodedAgain =>
    obtain ⟨innerEnvelope, innerParsed⟩ := parsedAgain inner decodedAgain
    exact settled_attempt (tried_of_authenticationFailure failed decodedAgain) innerParsed
  next => exact first

end Settled

/-- What a codec recognises by its header alone stands for an envelope, and so does what that
spells. -/
theorem exists_parse_of_isEncrypted
    {codec : Codec}
    {data : Bytes}
    (strict : codec.legacyDetection = false)
    (encrypted : codec.isEncrypted data = true) :
    (∃ envelope, Envelope.parse (Base64.Token.unwrap (Bytes.trim data)) = .ok envelope) ∧
      ∀ inner, Base64.Token.decode? (Base64.Token.unwrap (Bytes.trim data)) = some inner →
        ∃ innerEnvelope, Envelope.parse inner = .ok innerEnvelope := by
  simp only [isEncrypted, strict, Bool.false_and, Bool.or_false, Bool.and_eq_true,
    Bool.or_eq_true] at encrypted
  generalize Base64.Token.unwrap (Bytes.trim data) = payload at encrypted ⊢
  cases decodedAgain : Base64.Token.decode? payload with
  | none =>
      rw [Base64.Token.unwrap_of_decode?_eq_none decodedAgain, or_self] at encrypted
      refine ⟨Envelope.exists_parse_of_isTagged encrypted.2, fun inner spelled => ?_⟩
      cases spelled
  | some inner =>
      -- What is a token has no header itself, so the header is found in what it spells.
      have notTagged : ¬ Envelope.isTagged payload = true := by
        intro tagged
        rw [decode?_eq_none_of_isTagged tagged] at decodedAgain
        cases decodedAgain
      have tagged := encrypted.2.resolve_left notTagged
      rw [Base64.Token.unwrap_of_decode? decodedAgain] at tagged
      obtain ⟨envelope, parsed, -⟩ := exists_headerless_of_decode? decodedAgain tagged
      refine ⟨⟨envelope, parsed⟩, ?_⟩
      rintro _ ⟨⟩
      exact Envelope.exists_parse_of_isTagged tagged

/-- Whatever a codec that goes by headers alone recognises is decrypted under a usable key to a
plaintext, or its tag does not match, or a reading of it that is tried opens to the empty plaintext.
It is never blank, too short, or of an unknown format. -/
theorem decrypt_of_isEncrypted
    (codec : Codec)
    {data key : Bytes}
    {cipherKey : CipherKey}
    (strict : codec.legacyDetection = false)
    (encrypted : codec.isEncrypted data = true)
    (resolved : Key.resolve key = .ok cipherKey) :
    (∃ opened, decrypt data key = .ok opened) ∨
      decrypt data key = .error .authenticationFailure ∨
      (decrypt data key = .error .nothingToEncode ∧
        ∃ payload, Tried cipherKey data payload ∧ Authenticates cipherKey payload []) := by
  obtain ⟨⟨envelope, parsed⟩, parsedAgain⟩ := exists_parse_of_isEncrypted strict encrypted
  have settled :=
    settled_decrypt (trim_ne_nil_of_isEncrypted encrypted) resolved parsed parsedAgain
  generalize decrypt data key = outcome at settled
  cases settled with
  | opened opened => exact Or.inl ⟨opened, rfl⟩
  | refused => exact Or.inr (Or.inl rfl)
  | hollow tried authenticated => exact Or.inr (Or.inr ⟨rfl, _, tried, authenticated⟩)

/-- An empty plaintext, sealed. -/
def hollowPayload (cipherKey : CipherKey) (nonce : FixedBytes 24) : Bytes :=
  (Envelope.create .xChaCha20Poly1305 cipherKey nonce []).toBytes

/-- The text of the text of an empty plaintext that has been sealed is recognised, and opens to
nothing that could be shown. -/
theorem decrypt_of_isEncrypted_hollow :
    let cipherKey : CipherKey := ⟨List.replicate 32 0x6B, rfl⟩
    let payload := hollowPayload cipherKey ⟨List.replicate 24 0xFF, rfl⟩
    let data := Encoding.toBase64 (Encoding.toBase64 payload)
    decrypt data cipherKey.val = .error .nothingToEncode ∧
      ∃ reading, Tried cipherKey data reading ∧ Authenticates cipherKey reading [] := by
  intro cipherKey payload data
  have encrypted : isEncrypted {} data = true := by decide +kernel
  have resolved : Key.resolve cipherKey.val = .ok cipherKey := by decide +kernel
  have decrypted : decrypt data cipherKey.val = .error .nothingToEncode := by decide +kernel
  rcases decrypt_of_isEncrypted {} rfl encrypted resolved with ⟨opened, plain⟩ | refused | hollow
  · cases decrypted.symm.trans plain
  · cases decrypted.symm.trans refused
  · exact hollow

end Codec
end Lockbox
