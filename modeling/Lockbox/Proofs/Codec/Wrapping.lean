import Lockbox.Proofs.Base64.Grammar
import Lockbox.Proofs.Codec.RawPayloads

/-!
# Payloads that have been wrapped twice

The text of a payload with a header is long enough to be taken for a payload without one
(`exists_headerless_of_decode?`). Only its tag tells that it is none, and then the payload opens at
the second attempt (`decrypt_wrapped_twice`).
-/

namespace Lockbox
namespace Codec

/-! ## The text of a payload -/

section Texts

variable {text payload : Bytes}

/-- The symbols of bytes that begin with the format mark begin with another byte than the mark. -/
theorem head?_encode_mark
    (alphabet : Base64.Alphabet)
    (rest : Bytes) :
    (Base64.encode alphabet (Header.mark ++ rest)).head? = some 0x55 := by
  cases alphabet <;> rfl

/-- What begins with the format mark still does without the white space around it. -/
theorem head?_trim_mark (rest : Bytes) :
    (Bytes.trim (Header.mark ++ rest)).head? = some 0x53 := by
  have shape : Header.mark ++ rest = 0x53 :: 0x42 :: 0x58 :: 0x31 :: rest := rfl
  rw [shape, Bytes.trim, trimWhile_cons_of_neg (by decide), trimEndWhile_cons_of_neg (by decide)]
  rfl

/-- The text of a payload with a header does not begin with the format mark. -/
theorem afterMark?_of_decode?
    (decoded : Base64.Token.decode? text = some payload)
    (tagged : Envelope.isTagged payload = true) :
    Header.afterMark? text = none := by
  rw [Option.eq_none_iff_forall_ne_some]
  intro rest marked
  rw [Header.afterMark?_eq_some_iff] at marked
  obtain ⟨envelope, algorithm, headed, rfl⟩ := Envelope.isTagged_iff.mp tagged
  obtain ⟨-, -, alphabet, marks, -, trimmed⟩ := Base64.Token.decode?_eq_some_iff.mp decoded
  have spelled := Header.afterMark?_eq_some_iff.mp (Envelope.afterMark?_toBytes headed)
  have first : (Bytes.trim text).head? = some 0x55 := by
    rw [trimmed, List.head?_append, spelled, head?_encode_mark]
    rfl
  rw [marked, head?_trim_mark] at first
  exact absurd first (by decide)

/-- The text of a payload with a header has room for a nonce and a tag. -/
theorem minimumBody_le_length_of_decode?
    (decoded : Base64.Token.decode? text = some payload)
    (tagged : Envelope.isTagged payload = true) :
    Algorithm.xChaCha20Poly1305.minimumBody ≤ text.length := by
  obtain ⟨envelope, algorithm, headed, rfl⟩ := Envelope.isTagged_iff.mp tagged
  obtain ⟨-, -, alphabet, marks, -, trimmed⟩ := Base64.Token.decode?_eq_some_iff.mp decoded
  have notShorter : (Bytes.trim text).length ≤ text.length := length_trimWhile_le _ _
  have room := envelope.minimumBody_le_length_body
  have length : envelope.toBytes.length = 5 + envelope.body.length := by
    rw [Envelope.toBytes_eq, headed, List.length_append]
    rfl
  have shortest : 28 ≤ envelope.header.algorithm.minimumBody := by
    cases envelope.header.algorithm <;> decide
  rw [trimmed, List.length_append, Base64.length_encode, length] at notShorter
  have sum : Algorithm.xChaCha20Poly1305.minimumBody = 40 := rfl
  omega

/-- The text of a payload with a header can be taken for a payload, and is then one without a
header. -/
theorem exists_headerless_of_decode?
    (decoded : Base64.Token.decode? text = some payload)
    (tagged : Envelope.isTagged payload = true) :
    ∃ envelope, Envelope.parse text = .ok envelope ∧ envelope.header = .headerless := by
  obtain ⟨envelope, made⟩ := Envelope.exists_ofBody_eq_ok .headerless text
    (minimumBody_le_length_of_decode? decoded tagged)
  refine ⟨envelope, ?_, (Envelope.header_body_of_ofBody_eq_ok made).1⟩
  rw [Envelope.parse, afterMark?_of_decode? decoded tagged]
  exact made

/-- No text of symbols and marks holds the marker of plaintext key material, which ends in a
blank. -/
theorem holdsPlaintext_marked_encode
    (alphabet : Base64.Alphabet)
    (bytes : Bytes)
    (marks : Nat) :
    holdsPlaintext
      (Base64.encode alphabet bytes ++ List.replicate marks Base64.padMark) = false := by
  rw [← Bool.not_eq_true, holdsPlaintext_iff]
  intro marked
  have blank : (0x20 : UInt8) ∈
      Base64.encode alphabet bytes ++ List.replicate marks Base64.padMark :=
    marked.subset (by decide)
  rcases Base64.mem_marked_encode blank with ⟨value, small, same⟩ | same
  · have notBlank := alphabet.isBlank_symbol small
    rw [← same] at notBlank
    exact absurd notBlank (by decide)
  · exact absurd same (by decide)

end Texts

/-! ## Payloads that have been wrapped twice -/

/-- A buffer, read as a payload without a header, opens under a key. -/
def OpensHeaderless (cipherKey : CipherKey) (payload : Bytes) : Prop :=
  ∃ (envelope : Envelope) (plaintext : Bytes), envelope.header = .headerless ∧
    envelope.toBytes = payload ∧ envelope.decrypt? cipherKey = some plaintext

/-- A text of a payload with a header that does not open itself gives way to the payload. -/
theorem decrypt_of_wrapped
    {text payload wrapped key : Bytes}
    {cipherKey : CipherKey}
    (unwrapped : Base64.Token.decode? (Bytes.trim wrapped) = some text)
    (decoded : Base64.Token.decode? text = some payload)
    (tagged : Envelope.isTagged payload = true)
    (unmarked : holdsPlaintext text = false)
    (closed : ¬ OpensHeaderless cipherKey text)
    (resolved : Key.resolve key = .ok cipherKey) :
    decrypt wrapped key = attempt cipherKey payload := by
  obtain ⟨envelope, parsed, headerless⟩ := exists_headerless_of_decode? decoded tagged
  have tagDiffers : envelope.decrypt? cipherKey = none := by
    rw [Option.eq_none_iff_forall_ne_some]
    intro plaintext opened
    exact closed ⟨envelope, plaintext, headerless, Envelope.toBytes_of_parse_eq_ok parsed, opened⟩
  rw [decrypt_eq_attempts (trim_ne_nil_of_decode? unwrapped) resolved,
    Base64.Token.unwrap_of_decode? unwrapped, decoded, attempt_of_unmarked unmarked,
    openPayload_of_closed parsed tagDiffers]

section Wrapped

variable {payload key : Bytes} {cipherKey : CipherKey} {opened : Opened}
  {marks : Nat}

/-- The text of a payload spells the payload. -/
theorem decode?_text
    (alphabet : Base64.Alphabet)
    (tagged : Envelope.isTagged payload = true)
    (atMostTwo : marks ≤ 2) :
    Base64.Token.decode?
      (Base64.encode alphabet payload ++ List.replicate marks Base64.padMark) = some payload := by
  obtain ⟨envelope, -, -, rfl⟩ := Envelope.isTagged_iff.mp tagged
  have long := envelope.twelve_le_length_toBytes
  apply Base64.Token.decode?_marked_encode alphabet _ atMostTwo
  rw [Base64.length_encode, Base64.Token.minimumLength]
  omega

/-- A payload that opens under a key is opened from its text. -/
theorem decrypt_text
    (alphabet : Base64.Alphabet)
    (tagged : Envelope.isTagged payload = true)
    (unmarked : holdsPlaintext payload = false)
    (resolved : Key.resolve key = .ok cipherKey)
    (opens : openPayload cipherKey payload = .ok opened)
    (atMostTwo : marks ≤ 2) :
    decrypt (Base64.encode alphabet payload ++ List.replicate marks Base64.padMark) key =
      .ok opened := by
  have decoded := decode?_text alphabet tagged atMostTwo
  rw [← Base64.Token.decode?_trim] at decoded
  exact decrypt_of_opens decoded unmarked resolved opens

/-- A payload that opens under a key is opened from the text of its text. -/
theorem decrypt_text_of_text
    (alphabet : Base64.Alphabet)
    {wrapped : Bytes}
    (tagged : Envelope.isTagged payload = true)
    (unmarked : holdsPlaintext payload = false)
    (resolved : Key.resolve key = .ok cipherKey)
    (opens : openPayload cipherKey payload = .ok opened)
    (atMostTwo : marks ≤ 2)
    (closed : ¬ OpensHeaderless cipherKey
      (Base64.encode alphabet payload ++ List.replicate marks Base64.padMark))
    (spelling : Base64.Spelling (Encoding.toBase64
      (Base64.encode alphabet payload ++ List.replicate marks Base64.padMark)) wrapped) :
    decrypt wrapped key = .ok opened := by
  have decoded := decode?_text alphabet tagged atMostTwo
  have long := Nat.le_trans (by decide : 12 ≤ Algorithm.xChaCha20Poly1305.minimumBody)
    (minimumBody_le_length_of_decode? decoded tagged)
  have unwrapped := Base64.Token.decode?_of_spelling long spelling
  rw [decrypt_of_wrapped unwrapped decoded tagged (holdsPlaintext_marked_encode _ _ _) closed
    resolved, attempt_of_unmarked unmarked, opens]

end Wrapped

/-- A sealed payload that has been wrapped once more is decrypted like the payload wrapped once, in
whatever alphabets, with whatever marks, and with white space around it, provided that the text that
it was wrapped as does not happen to open as a payload without a header. -/
theorem decrypt_wrapped_twice
    (codec : Codec)
    {plaintext key : Bytes}
    {cipherKey : CipherKey}
    {nonce : FixedBytes codec.algorithm.nonceLength}
    {source rest : RandomSource}
    (nonempty : plaintext ≠ [])
    (resolved : Key.resolve key = .ok cipherKey)
    (drawn : source.draw codec.algorithm.nonceLength = (some nonce, rest))
    (unmarked : holdsPlaintext
      (Envelope.create codec.algorithm cipherKey nonce plaintext).toBytes = false) :
    ∃ sealedText encoded,
      codec.sealText plaintext key source = (.ok sealedText, rest) ∧
      Encoding.present plaintext = .ok encoded ∧
      ∀ (alphabet : Base64.Alphabet) (marks : Nat) (text wrapped : Bytes),
        marks ≤ 2 →
        text = alphabet.respell sealedText ++ List.replicate marks Base64.padMark →
        Base64.Spelling (Encoding.toBase64 text) wrapped →
        ¬ OpensHeaderless cipherKey text →
        decrypt wrapped key = decrypt text key ∧
          decrypt text key = .ok { plaintext := plaintext, encoded := encoded } := by
  refine ⟨_, _, sealText_of_draw codec nonempty resolved drawn,
    Encoding.present_of_ne_nil nonempty, ?_⟩
  intro alphabet marks text wrapped atMostTwo isText spelling closed
  have tagged := Envelope.isTagged_iff.mpr
    ⟨.create codec.algorithm cipherKey nonce plaintext, codec.algorithm, rfl, rfl⟩
  have opens := openPayload_create codec.algorithm cipherKey nonce nonempty
  rw [Encoding.toBase64, Base64.Alphabet.respell_encode] at isText
  subst isText
  have once := decrypt_text alphabet tagged unmarked resolved opens atMostTwo
  have twice :=
    decrypt_text_of_text alphabet tagged unmarked resolved opens atMostTwo closed spelling
  exact ⟨twice.trans once.symm, once⟩

/-- A greeting, sealed and written in the standard alphabet with a mark. -/
def greetingText (cipherKey : CipherKey) (nonce : FixedBytes 24) : Bytes :=
  Base64.Alphabet.standard.respell (Encoding.toBase64
    (Envelope.create .xChaCha20Poly1305 cipherKey nonce [0x68, 0x69]).toBytes) ++
      List.replicate 1 Base64.padMark

/-- The text of a greeting is no payload without a header that opens under the key of the
greeting. -/
theorem not_opensHeaderless_greetingText :
    ¬ OpensHeaderless ⟨List.replicate 32 0x6B, rfl⟩
      (greetingText ⟨List.replicate 32 0x6B, rfl⟩ ⟨List.replicate 24 0xFF, rfl⟩) := by
  rintro ⟨envelope, plaintext, -, bytes, opened⟩
  have parsed : Envelope.parse envelope.toBytes = .ok envelope :=
    Envelope.parse_toBytes_of_isUnmistakable fun _ => by
      rw [bytes]
      decide +kernel
  have closed :
      (Envelope.parse (greetingText ⟨List.replicate 32 0x6B, rfl⟩
        ⟨List.replicate 24 0xFF, rfl⟩)).map (·.decrypt? ⟨List.replicate 32 0x6B, rfl⟩) =
        .ok none := by
    decide +kernel
  rw [← bytes, Envelope.exists_parse_and_decrypt?_iff.mp ⟨envelope, parsed, opened⟩] at closed
  cases closed

/-- A greeting, wrapped in the standard alphabet with a mark and once more with two marks and white
space around it. -/
theorem decrypt_wrapped_twice_greeting :
    let cipherKey : CipherKey := ⟨List.replicate 32 0x6B, rfl⟩
    let text := greetingText cipherKey ⟨List.replicate 24 0xFF, rfl⟩
    decrypt ([0x20] ++ (Base64.Alphabet.standard.respell (Encoding.toBase64 text) ++
        List.replicate 2 Base64.padMark) ++ [0x0A]) cipherKey.val =
      .ok { plaintext := [0x68, 0x69], encoded := [0x61, 0x47, 0x6B] } := by
  intro cipherKey text
  have nonempty : ([0x68, 0x69] : Bytes) ≠ [] := by decide
  have resolved : Key.resolve cipherKey.val = .ok cipherKey := by decide +kernel
  have drawn : RandomSource.draw Algorithm.xChaCha20Poly1305.nonceLength
      [.bytes (List.replicate 24 0xFF)] = (some ⟨List.replicate 24 0xFF, rfl⟩, [.bytes []]) := by
    decide +kernel
  have unmarked : holdsPlaintext (Envelope.create .xChaCha20Poly1305 cipherKey
      ⟨List.replicate 24 0xFF, rfl⟩ [0x68, 0x69]).toBytes = false := by
    decide +kernel
  obtain ⟨sealedText, encoded, sealing, shown, opens⟩ :=
    decrypt_wrapped_twice {} nonempty resolved drawn unmarked
  have presented : Encoding.present [0x68, 0x69] = .ok [0x61, 0x47, 0x6B] := by decide +kernel
  obtain rfl := Except.ok.inj (shown.symm.trans presented)
  obtain rfl := Except.ok.inj
    (Prod.mk.inj (sealing.symm.trans (sealText_of_draw {} nonempty resolved drawn))).1
  have twice := opens .standard 1 text _ (by decide) rfl
    (.intro .standard 2 (by decide) [0x20] [0x0A] (by decide +kernel) (by decide +kernel))
    not_opensHeaderless_greetingText
  exact twice.1.trans twice.2

end Codec
end Lockbox
