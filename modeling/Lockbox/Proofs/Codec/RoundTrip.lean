import Lockbox.CommandLine.Program
import Lockbox.Proofs.Base64.Spelling
import Lockbox.Proofs.Codec.Attempts
import Lockbox.Proofs.Runs
import Lockbox.Proofs.Text.Utf8

/-!
# What is sealed can be opened

Sealing a buffer and decrypting any spelling of the text it gives returns the buffer, whichever
codec does the one or the other. The one exception is a payload
in which the marker of plaintext key material happens to occur; it comes back unopened.
-/

namespace Lockbox

namespace Codec

/-! ## Sealing -/

/-- What sealing does with a buffer that is not empty and a key that can be used depends on the
next draw alone. -/
theorem sealText_eq
    (codec : Codec)
    {plaintext key : Bytes}
    {cipherKey : CipherKey}
    (nonempty : plaintext ≠ [])
    (resolved : Key.resolve key = .ok cipherKey)
    (source : RandomSource) :
    codec.sealText plaintext key source =
      match source.draw codec.algorithm.nonceLength with
      | (some nonce, rest) =>
          (.ok (Encoding.toBase64
            (Envelope.create codec.algorithm cipherKey nonce plaintext).toBytes), rest)
      | (none, rest) => (.error .noRandomness, rest) := by
  have notEmpty : ¬ plaintext.isEmpty = true := by simpa using nonempty
  simp only [sealText, if_neg notEmpty, resolved, run_bind, run_liftM, Drawing.request]
  cases drawn : source.draw codec.algorithm.nonceLength with
  | mk outcome rest =>
      cases outcome with
      | none => rfl
      | some nonce => rfl

/-- Sealing succeeds once a nonce is drawn. -/
theorem sealText_of_draw
    (codec : Codec)
    {plaintext key : Bytes}
    {cipherKey : CipherKey}
    {nonce : FixedBytes codec.algorithm.nonceLength}
    {source rest : RandomSource}
    (nonempty : plaintext ≠ [])
    (resolved : Key.resolve key = .ok cipherKey)
    (drawn : source.draw codec.algorithm.nonceLength = (some nonce, rest)) :
    codec.sealText plaintext key source =
      (.ok (Encoding.toBase64
        (Envelope.create codec.algorithm cipherKey nonce plaintext).toBytes), rest) := by
  rw [sealText_eq codec nonempty resolved, drawn]

/-- Whatever sealing gives is the text of an envelope of the plaintext under the key. -/
theorem exists_create_of_sealText_eq_ok
    {codec : Codec}
    {plaintext key text : Bytes}
    {source rest : RandomSource}
    (sealing : codec.sealText plaintext key source = (.ok text, rest)) :
    plaintext ≠ [] ∧ ∃ cipherKey nonce,
      Key.resolve key = .ok cipherKey ∧
      source.draw codec.algorithm.nonceLength = (some nonce, rest) ∧
      text = Encoding.toBase64
        (Envelope.create codec.algorithm cipherKey nonce plaintext).toBytes := by
  have nonempty : plaintext ≠ [] := by
    rintro rfl
    cases sealing
  refine ⟨nonempty, ?_⟩
  cases resolved : Key.resolve key with
  | error refusal =>
      have notEmpty : ¬ plaintext.isEmpty = true := by simpa using nonempty
      simp only [sealText, if_neg notEmpty, resolved] at sealing
      cases sealing
  | ok cipherKey =>
      rw [sealText_eq codec nonempty resolved] at sealing
      cases drawn : source.draw codec.algorithm.nonceLength with
      | mk outcome after =>
          cases outcome with
          | none =>
              rw [drawn] at sealing
              cases sealing
          | some nonce =>
              rw [drawn] at sealing
              obtain ⟨text_eq, rfl⟩ := Prod.mk.inj sealing
              exact ⟨cipherKey, nonce, rfl, rfl, (Except.ok.inj text_eq).symm⟩

/-- The text of a sealed payload is ASCII. -/
theorem ascii_toBase64
    (payload : Bytes) :
    ∀ symbol ∈ Encoding.toBase64 payload, symbol.toNat < 0x80 :=
  fun _ member => Base64.ascii_of_mem_encode member

/-! ## Opening -/

/-- A payload opens under the key that it was made with. -/
theorem openPayload_create
    (algorithm : Algorithm)
    (cipherKey : CipherKey)
    (nonce : FixedBytes algorithm.nonceLength)
    {plaintext : Bytes}
    (nonempty : plaintext ≠ []) :
    openPayload cipherKey (Envelope.create algorithm cipherKey nonce plaintext).toBytes =
      .ok { plaintext := plaintext, encoded := Base64.Token.wrap plaintext } :=
  openPayload_of_decrypt? nonempty (Envelope.parse_toBytes rfl) (Envelope.decrypt?_create _ _ _ _)

section Tokens

variable {data payload : Bytes}

/-- What spells something is not blank. -/
theorem trim_ne_nil_of_decode?
    (decoded : Base64.Token.decode? (Bytes.trim data) = some payload) :
    Bytes.trim data ≠ [] := by
  intro blank
  rw [blank] at decoded
  cases decoded

/-- A token whose bytes hold the marker of plaintext key material is decoded and given back. -/
theorem decrypt_of_holdsPlaintext
    (decoded : Base64.Token.decode? (Bytes.trim data) = some payload)
    (marked : holdsPlaintext payload = true)
    (key : Bytes) :
    decrypt data key = .ok (passThrough payload) := by
  have notBlank : ¬ (Bytes.trim data).isEmpty = true := by
    simpa using trim_ne_nil_of_decode? decoded
  rw [decrypt, if_neg notBlank, Base64.Token.unwrap_of_decode? decoded, if_pos marked]

/-- A token without the marker whose bytes open is decoded once and opened. -/
theorem decrypt_of_opens
    {key : Bytes}
    {cipherKey : CipherKey}
    {opened : Opened}
    (decoded : Base64.Token.decode? (Bytes.trim data) = some payload)
    (unmarked : holdsPlaintext payload = false)
    (resolved : Key.resolve key = .ok cipherKey)
    (opens : openPayload cipherKey payload = .ok opened) :
    decrypt data key = .ok opened := by
  rw [decrypt_eq_attempts (trim_ne_nil_of_decode? decoded) resolved,
    Base64.Token.unwrap_of_decode? decoded, attempt_of_unmarked unmarked, opens]

end Tokens

/-- Every spelling of a payload without the marker opens under the key that the payload was made
with. -/
theorem decrypt_spelling_create
    {algorithm : Algorithm}
    {nonce : FixedBytes algorithm.nonceLength}
    {plaintext key text : Bytes}
    {cipherKey : CipherKey}
    (nonempty : plaintext ≠ [])
    (resolved : Key.resolve key = .ok cipherKey)
    (unmarked :
      holdsPlaintext (Envelope.create algorithm cipherKey nonce plaintext).toBytes = false)
    (spelling : Base64.Spelling
      (Encoding.toBase64 (Envelope.create algorithm cipherKey nonce plaintext).toBytes) text) :
    decrypt text key = .ok { plaintext := plaintext, encoded := Base64.Token.wrap plaintext } := by
  have decoded := Base64.Token.decode?_of_spelling (Envelope.twelve_le_length_toBytes _) spelling
  exact decrypt_of_opens decoded unmarked resolved (openPayload_create _ _ _ nonempty)

/-! ## Texts of the command line -/

end Codec

namespace CommandLine

/-- Encrypting a text is sealing its bytes. -/
theorem encryptText_of_sealText
    {codec : Codec}
    {data key : Text}
    {payload : Bytes}
    {source rest : RandomSource}
    (sealing : codec.sealText (Utf8.encode data) (Utf8.encode key) source = (.ok payload, rest)) :
    encryptText codec data key source = (.ok (Text.ofAscii payload), rest) := by
  have adapted : ExceptT.adapt Failure.codec
      (codec.sealText (Utf8.encode data) (Utf8.encode key)) source = (.ok payload, rest) := by
    rw [run_adapt, sealing]
    rfl
  rw [encryptText, run_bind_of_ok adapted, run_pure]

/-- Decrypting a text whose plaintext is a text gives that text. -/
theorem decryptText_of_decrypt
    {data key secret : Text}
    {opened : Opened}
    (decrypted : Codec.decrypt (Utf8.encode data) (Utf8.encode key) = .ok opened)
    (read : Utf8.decode opened.plaintext = .ok secret) :
    decryptText data key = .ok secret := by
  simp only [decryptText, decrypted, read]

end CommandLine

namespace Codec

/-! ## The round trip -/

/-- What is sealed can be decrypted under the same key, in every spelling and with any codec, and
what a text encrypts to decrypts to that text. Only a payload in which the marker occurs is given
back as it is, under any key at all. -/
theorem decrypt_spelling_of_sealText
    (codec : Codec)
    {plaintext key : Bytes}
    {cipherKey : CipherKey}
    {nonce : FixedBytes codec.algorithm.nonceLength}
    {source rest : RandomSource}
    (nonempty : plaintext ≠ [])
    (resolved : Key.resolve key = .ok cipherKey)
    (drawn : source.draw codec.algorithm.nonceLength = (some nonce, rest)) :
    ∃ payload sealedText encoded,
      payload = (Envelope.create codec.algorithm cipherKey nonce plaintext).toBytes ∧
      codec.sealText plaintext key source = (.ok sealedText, rest) ∧
      Encoding.present plaintext = .ok encoded ∧
      (∀ text, Base64.Spelling sealedText text →
        (holdsPlaintext payload = false →
          decrypt text key = .ok { plaintext := plaintext, encoded := encoded }) ∧
        (holdsPlaintext payload = true →
          ∀ anyKey, decrypt text anyKey = .ok (passThrough payload))) ∧
      (∀ secret keyText, Utf8.encode secret = plaintext → Utf8.encode keyText = key →
        ∃ encrypted,
          CommandLine.encryptText codec secret keyText source = (.ok encrypted, rest) ∧
          (holdsPlaintext payload = false →
            CommandLine.decryptText encrypted keyText = .ok secret)) := by
  have sealing := sealText_of_draw codec nonempty resolved drawn
  refine ⟨_, _, _, rfl, sealing, Encoding.present_of_ne_nil nonempty, ?_, ?_⟩
  · intro text spelling
    constructor
    · intro unmarked
      exact decrypt_spelling_create nonempty resolved unmarked spelling
    · intro marked anyKey
      have decoded :=
        Base64.Token.decode?_of_spelling (Envelope.twelve_le_length_toBytes _) spelling
      exact decrypt_of_holdsPlaintext decoded marked anyKey
  · rintro secret keyText rfl rfl
    refine ⟨_, CommandLine.encryptText_of_sealText sealing, fun unmarked => ?_⟩
    have decrypted := decrypt_spelling_create nonempty resolved unmarked (Base64.Spelling.refl _)
    rw [← Utf8.encode_ofAscii (ascii_toBase64 _)] at decrypted
    exact CommandLine.decryptText_of_decrypt decrypted (Utf8.decode_encode secret)

/-- A greeting, rewritten in the other alphabet with two marks and white
space around it. -/
theorem decrypt_spelling_of_greeting :
    ∃ sealedText,
      sealText {} [0x68, 0x69] (List.replicate 32 0x6B)
          [.bytes (List.replicate 24 0xFF)] = (.ok sealedText, [.bytes []]) ∧
        decrypt
            ([0x20] ++ (Base64.Alphabet.standard.respell sealedText ++
              List.replicate 2 Base64.padMark) ++ [0x0A])
            (List.replicate 32 0x6B) =
          .ok { plaintext := [0x68, 0x69], encoded := [0x61, 0x47, 0x6B] } := by
  have resolved : Key.resolve (List.replicate 32 0x6B) = .ok ⟨List.replicate 32 0x6B, rfl⟩ := by
    decide +kernel
  have drawn : RandomSource.draw Algorithm.xChaCha20Poly1305.nonceLength
      [.bytes (List.replicate 24 0xFF)] = (some ⟨List.replicate 24 0xFF, rfl⟩, [.bytes []]) := by
    decide +kernel
  obtain ⟨payload, sealedText, encoded, rfl, sealing, shown, opens, -⟩ :=
    decrypt_spelling_of_sealText {}
      (show ([0x68, 0x69] : Bytes) ≠ [] by decide) resolved drawn
  have unmarked : holdsPlaintext (Envelope.create Algorithm.xChaCha20Poly1305
      ⟨List.replicate 32 0x6B, rfl⟩ ⟨List.replicate 24 0xFF, rfl⟩
      [0x68, 0x69]).toBytes = false := by
    decide +kernel
  have presented : Encoding.present [0x68, 0x69] = .ok [0x61, 0x47, 0x6B] := by decide +kernel
  obtain rfl := Except.ok.inj (shown.symm.trans presented)
  refine ⟨sealedText, sealing, (opens _ ?_).1 unmarked⟩
  exact Base64.Spelling.intro .standard 2 (by decide) [0x20] [0x0A] (by decide +kernel)
    (by decide +kernel)

end Codec
end Lockbox
