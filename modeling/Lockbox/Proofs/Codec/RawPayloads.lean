import Lockbox.Proofs.Codec.Idempotence
import Lockbox.Proofs.Codec.Tampering

/-!
# Payloads that are not Base64

A payload can be handed over as it is, without Base64 around it. It is then read as a text first,
and opens like its Base64 form if reading it so changes nothing (`decrypt_raw`): if it has no white
space at its ends and is no token. A payload with a header opens only then, and it can only lose its
last bytes; one that ends in white space does not open (`decrypt_raw_blankEnd`).
-/

namespace Lockbox
namespace Codec

/-! ## The marker of plaintext key material -/

/-- A buffer holds the marker exactly when the marker is a stretch of it. -/
theorem holdsPlaintext_iff
    {data : Bytes} :
    holdsPlaintext data = true ↔ plaintextMarker <:+: data := by
  induction data with
  | nil => simp [holdsPlaintext, plaintextMarker]
  | cons byte rest inductionHypothesis =>
      rw [holdsPlaintext, Bool.or_eq_true, List.isPrefixOf_iff_prefix, inductionHypothesis,
        List.infix_cons_iff]

/-- Trimming does not make the marker. -/
theorem holdsPlaintext_trim
    {data : Bytes}
    (unmarked : holdsPlaintext data = false) :
    holdsPlaintext (Bytes.trim data) = false := by
  rw [← Bool.not_eq_true, holdsPlaintext_iff] at unmarked ⊢
  intro marked
  obtain ⟨before, after, split, -, -⟩ := exists_surrounded_trimWhile Bytes.isBlank data
  apply unmarked
  exact marked.trans ⟨before, after, split.symm⟩

/-! ## Buffers that are read as they are -/

/-- A buffer that is taken as it is: it has no white space at its ends and is no token. -/
structure IsLiteral (data : Bytes) : Prop where
  trim_eq : Bytes.trim data = data
  noToken : Base64.Token.decode? data = none

theorem IsLiteral.unwrap_trim
    {data : Bytes}
    (literal : IsLiteral data) :
    Base64.Token.unwrap (Bytes.trim data) = data := by
  rw [literal.trim_eq, Base64.Token.unwrap_of_decode?_eq_none literal.noToken]

/-- A buffer that is taken as it is is decrypted like its Base64 form. -/
theorem IsLiteral.decrypt_eq
    {data : Bytes}
    (literal : IsLiteral data)
    (long : 12 ≤ data.length)
    (key : Bytes) :
    decrypt data key = decrypt (Encoding.toBase64 data) key := by
  apply decrypt_eq_of_unwrap_eq
  have decoded := Base64.Token.decode?_of_spelling long (Base64.Spelling.refl _)
  rw [literal.unwrap_trim]
  exact (Base64.Token.unwrap_of_decode? decoded).symm

/-! ## Payloads with a header -/

section Tagged

variable {envelope : Envelope} {algorithm : Algorithm}

theorem isTagged_toBytes
    (headed : envelope.header = .tagged algorithm) :
    Envelope.isTagged envelope.toBytes = true :=
  Envelope.isTagged_iff.mpr ⟨envelope, algorithm, headed, rfl⟩

/-- A payload with a header is taken as it is exactly when trimming leaves its end. -/
theorem isLiteral_toBytes_iff_body
    (headed : envelope.header = .tagged algorithm) :
    IsLiteral envelope.toBytes ↔
      trimEndWhile Bytes.isBlank envelope.body = envelope.body := by
  have bytes : envelope.toBytes = (Header.tagged algorithm).toBytes ++ envelope.body := by
    rw [Envelope.toBytes_eq, headed]
  constructor
  · intro literal
    have kept := literal.trim_eq
    rw [trim_toBytes headed, bytes] at kept
    exact List.append_cancel_left kept
  · intro kept
    refine ⟨?_, decode?_eq_none_of_isTagged (isTagged_toBytes headed)⟩
    rw [trim_toBytes headed, kept, bytes]

/-- A payload with a header is taken as it is exactly when it does not end in white space. -/
theorem isLiteral_toBytes_iff
    (headed : envelope.header = .tagged algorithm) :
    IsLiteral envelope.toBytes ↔
      ∀ last, envelope.toBytes.getLast? = some last → Bytes.isBlank last = false := by
  have bodyLast : envelope.toBytes.getLast? = envelope.body.getLast? := by
    rw [Envelope.toBytes_eq, List.getLast?_append]
    cases last : envelope.body.getLast? with
    | some symbol => rfl
    | none =>
        have room := envelope.minimumBody_le_length_body
        rw [List.getLast?_eq_none_iff.mp last, Algorithm.minimumBody, tagLength] at room
        simp only [List.length_nil] at room
        omega
  rw [isLiteral_toBytes_iff_body headed, trimEndWhile_eq_self_iff, bodyLast]

/-- What a payload with a header is decrypted to is as long as the payload without the white space
at its end says. -/
theorem length_of_decrypt_eq_ok
    {key : Bytes}
    {opened : Opened}
    (headed : envelope.header = .tagged algorithm)
    (unmarked : holdsPlaintext envelope.toBytes = false)
    (decrypted : decrypt envelope.toBytes key = .ok opened) :
    (trimEndWhile Bytes.isBlank envelope.body).length =
      algorithm.minimumBody + opened.plaintext.length := by
  have noToken := decode?_eq_none_of_isTagged (isTagged_toBytes headed)
  have stillUnmarked := holdsPlaintext_trim unmarked
  obtain ⟨cipherKey, resolved⟩ := exists_resolve_of_decrypt_eq_ok (by
    rwa [Base64.Token.unwrap_of_decode?_eq_none (by rwa [Base64.Token.decode?_trim])]) decrypted
  obtain ⟨-, payload, tried, backs⟩ :=
    (decrypt_eq_ok_iff resolved).mp (congrArg (Except.map Opened.plaintext) decrypted)
  rw [← Base64.Token.decode?_trim] at noToken
  have onlyTrimmed : payload = Bytes.trim envelope.toBytes := by
    cases tried with
    | plain => rfl
    | once decoded => cases noToken.symm.trans decoded
    | twice decoded => cases noToken.symm.trans decoded
  subst onlyTrimmed
  rcases backs with ⟨marked, -⟩ | ⟨-, found, parsed, authentic⟩
  · cases stillUnmarked.symm.trans marked
  · rw [trim_toBytes headed, Envelope.parse_tagged] at parsed
    obtain ⟨sameHeader, sameBody⟩ := Envelope.header_body_of_ofBody_eq_ok parsed
    have lengths := Envelope.length_body_of_decrypt? authentic
    rwa [sameBody, sameHeader] at lengths

section Opens

variable {key plaintext : Bytes} {cipherKey : CipherKey} {opened : Opened}

/-- A payload with a header that opens as it is to its plaintext has lost nothing. -/
theorem isLiteral_of_decrypt_eq_ok
    (headed : envelope.header = .tagged algorithm)
    (opens : envelope.decrypt? cipherKey = some plaintext)
    (unmarked : holdsPlaintext envelope.toBytes = false)
    (decrypted : decrypt envelope.toBytes key = .ok opened)
    (original : opened.plaintext = plaintext) :
    IsLiteral envelope.toBytes := by
  have kept := length_of_decrypt_eq_ok headed unmarked decrypted
  have whole := Envelope.length_body_of_decrypt? opens
  rw [headed, Header.algorithm] at whole
  rw [original] at kept
  exact (isLiteral_toBytes_iff_body headed).mpr (trimEndWhile_eq_self_of_length (by omega))

/-- A payload with a header that is taken as it is counts as a payload for every codec, so that
encryption shows it as Base64. -/
theorem encrypt_of_isLiteral
    (headed : envelope.header = .tagged algorithm)
    (literal : IsLiteral envelope.toBytes)
    (codec : Codec)
    (key : Bytes)
    (source : RandomSource) :
    ∃ result, codec.encrypt envelope.toBytes key source = (.ok result, source) ∧
      ∀ anyKey, decrypt result.ciphertext anyKey = decrypt envelope.toBytes anyKey := by
  have notBlank : ¬ (Bytes.trim envelope.toBytes).isEmpty = true := by
    rw [literal.trim_eq, Envelope.toBytes_eq, headed]
    simp [Header.toBytes]
  have encrypted : codec.isEncrypted envelope.toBytes = true := by
    simp [isEncrypted, literal.unwrap_trim, isTagged_toBytes headed, notBlank]
  exact ⟨_, encrypt_of_isEncrypted encrypted key source, fun anyKey =>
    decrypt_eq_of_unwrap_eq anyKey (unwrap_trim_wrap_of_isEncrypted encrypted)⟩

end Opens

end Tagged

/-! ## Buffers that are sealed once more -/

section Again

variable {codec : Codec} {data key : Bytes} {source rest : RandomSource} {result : Sealed}

/-- What is sealed, be it a payload or not, does not become shorter by being decrypted. -/
theorem length_le_of_decrypt_encrypt
    {opened : Opened}
    (plain : codec.isEncrypted data = false)
    (noToken : Base64.Token.decode? data = none)
    (encrypting : codec.encrypt data key source = (.ok result, rest))
    (decrypted : decrypt result.ciphertext key = .ok opened) :
    data.length ≤ opened.plaintext.length := by
  obtain ⟨standsFor, sealing⟩ := seals_of_encrypt_eq_ok plain encrypting
  rw [Base64.Token.unwrap_of_decode?_eq_none noToken] at standsFor
  obtain ⟨nonempty, cipherKey, nonce, resolved, -, text⟩ :=
    exists_create_of_sealText_eq_ok sealing
  rw [standsFor] at nonempty text
  rw [text] at decrypted
  cases marked : holdsPlaintext (Envelope.create codec.algorithm cipherKey nonce data).toBytes with
  | false =>
      have opens := decrypt_spelling_create nonempty resolved marked (Base64.Spelling.refl _)
      obtain rfl := Except.ok.inj (opens.symm.trans decrypted)
      exact Nat.le_refl _
  | true =>
      have decoded := Base64.Token.decode?_of_spelling
        (Envelope.twelve_le_length_toBytes (.create codec.algorithm cipherKey nonce data))
        (Base64.Spelling.refl _)
      have passed := decrypt_of_holdsPlaintext decoded marked key
      obtain rfl := Except.ok.inj (passed.symm.trans decrypted)
      have whole := Envelope.length_body_of_decrypt?
        (Envelope.decrypt?_create codec.algorithm cipherKey nonce data)
      rw [passThrough, Envelope.toBytes_eq, List.length_append, whole]
      omega

end Again

/-- A payload with a header whose encryption is decrypted to its plaintext has lost nothing. -/
theorem isLiteral_of_encrypt_eq_ok
    {envelope : Envelope}
    {algorithm : Algorithm}
    {codec : Codec}
    {key plaintext : Bytes}
    {cipherKey : CipherKey}
    {source rest : RandomSource}
    {result : Sealed}
    {opened : Opened}
    (headed : envelope.header = .tagged algorithm)
    (opens : envelope.decrypt? cipherKey = some plaintext)
    (unmarked : holdsPlaintext envelope.toBytes = false)
    (encrypting : codec.encrypt envelope.toBytes key source = (.ok result, rest))
    (decrypted : decrypt result.ciphertext key = .ok opened)
    (original : opened.plaintext = plaintext) :
    IsLiteral envelope.toBytes := by
  cases encrypted : codec.isEncrypted envelope.toBytes with
  | true =>
      rw [encrypt_of_isEncrypted encrypted] at encrypting
      obtain rfl := Except.ok.inj (Prod.mk.inj encrypting).1
      rw [decrypt_eq_of_unwrap_eq key (unwrap_trim_wrap_of_isEncrypted encrypted)] at decrypted
      exact isLiteral_of_decrypt_eq_ok headed opens unmarked decrypted original
  | false =>
      have noToken := decode?_eq_none_of_isTagged (isTagged_toBytes headed)
      have notShorter := length_le_of_decrypt_encrypt encrypted noToken encrypting decrypted
      have whole := Envelope.length_body_of_decrypt? opens
      rw [original, Envelope.toBytes_eq, List.length_append, whole, Algorithm.minimumBody,
        tagLength] at notShorter
      omega

/-! ## Sealed payloads -/

section Sealed

variable {header : Header} {nonce : FixedBytes header.algorithm.nonceLength}
  {plaintext key : Bytes} {cipherKey : CipherKey}

/-- Every spelling of a payload opens, with a header or without one. -/
theorem decrypt_spelling_behind
    {text : Bytes}
    (nonempty : plaintext ≠ [])
    (resolved : Key.resolve key = .ok cipherKey)
    (unmistakable : (Envelope.behind header cipherKey nonce plaintext).IsUnmistakable)
    (unmarked :
      holdsPlaintext (Envelope.behind header cipherKey nonce plaintext).toBytes = false)
    (spelling : Base64.Spelling
      (Encoding.toBase64 (Envelope.behind header cipherKey nonce plaintext).toBytes) text) :
    decrypt text key = .ok { plaintext := plaintext, encoded := Base64.Token.wrap plaintext } := by
  have decoded := Base64.Token.decode?_of_spelling (Envelope.twelve_le_length_toBytes _) spelling
  have parsed := Envelope.parse_toBytes_of_isUnmistakable unmistakable
  exact decrypt_of_opens decoded unmarked resolved
    (openPayload_of_decrypt? nonempty parsed (Envelope.decrypt?_behind _ _ _ _))

/-- The Base64 form of a payload opens, with a header or without one. -/
theorem decrypt_toBase64_behind
    (nonempty : plaintext ≠ [])
    (resolved : Key.resolve key = .ok cipherKey)
    (unmistakable : (Envelope.behind header cipherKey nonce plaintext).IsUnmistakable)
    (unmarked :
      holdsPlaintext (Envelope.behind header cipherKey nonce plaintext).toBytes = false) :
    decrypt (Encoding.toBase64 (Envelope.behind header cipherKey nonce plaintext).toBytes) key =
      .ok { plaintext := plaintext, encoded := Base64.Token.wrap plaintext } :=
  decrypt_spelling_behind nonempty resolved unmistakable unmarked (Base64.Spelling.refl _)

/-- A payload opens as it is like its Base64 form if reading it as a text changes nothing. For a
payload with a header that means that it does not end in white space; then encryption keeps it, and
otherwise neither decryption nor encryption leads to its plaintext. -/
theorem decrypt_raw
    (nonempty : plaintext ≠ [])
    (resolved : Key.resolve key = .ok cipherKey)
    (unmistakable : (Envelope.behind header cipherKey nonce plaintext).IsUnmistakable)
    (unmarked :
      holdsPlaintext (Envelope.behind header cipherKey nonce plaintext).toBytes = false) :
    ∃ payload opened,
      payload = (Envelope.behind header cipherKey nonce plaintext).toBytes ∧
      opened.plaintext = plaintext ∧
      decrypt (Encoding.toBase64 payload) key = .ok opened ∧
      (IsLiteral payload → decrypt payload key = .ok opened) ∧
      ∀ algorithm, header = .tagged algorithm →
        (IsLiteral payload ↔
          ∀ last, payload.getLast? = some last → Bytes.isBlank last = false) ∧
        (decrypt payload key = .ok opened → IsLiteral payload) ∧
        (IsLiteral payload → ∀ codec anyKey source, ∃ result,
          encrypt codec payload anyKey source = (.ok result, source) ∧
            decrypt result.ciphertext key = .ok opened) ∧
        ∀ codec source result rest,
          encrypt codec payload key source = (.ok result, rest) →
            decrypt result.ciphertext key = .ok opened → IsLiteral payload := by
  have asBase64 := decrypt_toBase64_behind nonempty resolved unmistakable unmarked
  have asItIs : IsLiteral (Envelope.behind header cipherKey nonce plaintext).toBytes →
      decrypt (Envelope.behind header cipherKey nonce plaintext).toBytes key =
        .ok { plaintext := plaintext, encoded := Base64.Token.wrap plaintext } :=
    fun literal => (literal.decrypt_eq (Envelope.twelve_le_length_toBytes _) key).trans asBase64
  refine ⟨_, _, rfl, rfl, asBase64, asItIs, fun algorithm headed => ?_⟩
  have opens := Envelope.decrypt?_behind header cipherKey nonce plaintext
  refine ⟨isLiteral_toBytes_iff headed, ?_, ?_, ?_⟩
  · intro decrypted
    exact isLiteral_of_decrypt_eq_ok headed opens unmarked decrypted rfl
  · intro literal codec anyKey source
    obtain ⟨result, encrypting, alike⟩ := encrypt_of_isLiteral headed literal codec anyKey source
    exact ⟨result, encrypting, (alike key).trans (asItIs literal)⟩
  · intro codec source result rest encrypting decrypted
    exact isLiteral_of_encrypt_eq_ok headed opens unmarked encrypting decrypted rfl

end Sealed

/-- A greeting sealed behind a header, and one sealed behind none. -/
theorem decrypt_raw_greetings :
    (∃ opened result,
      opened.plaintext = [0x68, 0x69] ∧
        decrypt (Envelope.behind (.tagged .xChaCha20Poly1305) ⟨List.replicate 32 0x6B, rfl⟩
          ⟨List.replicate 24 0xFF, rfl⟩ [0x68, 0x69]).toBytes (List.replicate 32 0x6B) =
            .ok opened ∧
        encrypt {} (Envelope.behind (.tagged .xChaCha20Poly1305) ⟨List.replicate 32 0x6B, rfl⟩
          ⟨List.replicate 24 0xFF, rfl⟩ [0x68, 0x69]).toBytes [] [] = (.ok result, []) ∧
        decrypt result.ciphertext (List.replicate 32 0x6B) = .ok opened) ∧
      ∃ opened,
        opened.plaintext = [0x68, 0x69] ∧
          decrypt (Envelope.behind .headerless ⟨List.replicate 32 0x6B, rfl⟩
            ⟨List.replicate 24 0xFF, rfl⟩ [0x68, 0x69]).toBytes (List.replicate 32 0x6B) =
              .ok opened := by
  have resolved : Key.resolve (List.replicate 32 0x6B) = .ok ⟨List.replicate 32 0x6B, rfl⟩ := by
    decide +kernel
  constructor
  · have unmistakable : (Envelope.behind (.tagged .xChaCha20Poly1305) ⟨List.replicate 32 0x6B, rfl⟩
        ⟨List.replicate 24 0xFF, rfl⟩ [0x68, 0x69]).IsUnmistakable := nofun
    obtain ⟨payload, opened, rfl, plaintext, -, asItIs, headed⟩ :=
      decrypt_raw (by decide) resolved unmistakable (by decide +kernel)
    obtain ⟨-, -, keeps, -⟩ := headed .xChaCha20Poly1305 rfl
    have literal : IsLiteral (Envelope.behind (.tagged .xChaCha20Poly1305)
        ⟨List.replicate 32 0x6B, rfl⟩ ⟨List.replicate 24 0xFF, rfl⟩ [0x68, 0x69]).toBytes :=
      ⟨by decide +kernel, by decide +kernel⟩
    obtain ⟨result, encrypting, decrypting⟩ := keeps literal {} [] []
    exact ⟨opened, result, plaintext, asItIs literal, encrypting, decrypting⟩
  · have unmistakable : (Envelope.behind .headerless ⟨List.replicate 32 0x6B, rfl⟩
        ⟨List.replicate 24 0xFF, rfl⟩ [0x68, 0x69]).IsUnmistakable := fun _ => by decide +kernel
    obtain ⟨payload, opened, rfl, plaintext, -, asItIs, -⟩ :=
      decrypt_raw (by decide) resolved unmistakable (by decide +kernel)
    exact ⟨opened, plaintext, asItIs ⟨by decide +kernel, by decide +kernel⟩⟩

/-- A sealed greeting whose last byte is a blank. Its Base64 form opens, but as it is it does not,
and what encryption makes of it does not open either. -/
theorem decrypt_raw_blankEnd :
    ∃ payload,
      payload = (Envelope.behind (.tagged .xChaCha20Poly1305) ⟨List.replicate 32 0x6B, rfl⟩
        ⟨List.replicate 24 0xFA, rfl⟩ [0x68, 0x69]).toBytes ∧
      holdsPlaintext payload = false ∧
      decrypt (Encoding.toBase64 payload) (List.replicate 32 0x6B) =
        .ok { plaintext := [0x68, 0x69], encoded := [0x61, 0x47, 0x6B] } ∧
      decrypt payload (List.replicate 32 0x6B) = .error .authenticationFailure ∧
      ∃ result, encrypt {} payload (List.replicate 32 0x6B) [] = (.ok result, []) ∧
        decrypt result.ciphertext (List.replicate 32 0x6B) = .error .authenticationFailure := by
  refine ⟨_, rfl, by decide +kernel, by decide +kernel, by decide +kernel, ?_⟩
  have encrypted : isEncrypted {} (Envelope.behind (.tagged .xChaCha20Poly1305)
      ⟨List.replicate 32 0x6B, rfl⟩ ⟨List.replicate 24 0xFA, rfl⟩ [0x68, 0x69]).toBytes = true := by
    decide +kernel
  exact ⟨_, encrypt_of_isEncrypted encrypted _ _, by decide +kernel⟩

end Codec
end Lockbox
