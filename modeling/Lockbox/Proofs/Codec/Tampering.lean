import Lockbox.Proofs.Base64.Wrapping
import Lockbox.Proofs.Codec.Readings
import Lockbox.Proofs.Codec.RoundTrip

/-!
# Tampered payloads

A payload with a header is never a token, because no token has the byte that names an algorithm. So
a payload that does not open is not given a second reading, and decryption reports that its tag does
not match (`decrypt_of_rejected`). A sealed payload with another tag at its end does not open under
the key that sealed it (`not_authenticates_retag`).
-/

namespace Lockbox

/-! ## Other tags -/

/-- A masked text is rejected behind every tag but its own. -/
theorem Aead.decrypt?_append_eq_none
    (aead : Aead)
    {key : CipherKey}
    {nonce masked : Bytes}
    {tag : FixedBytes tagLength}
    (different : tag ≠ aead.authenticate key nonce masked) :
    aead.decrypt? key nonce (masked ++ tag.val) = none := by
  have front : (masked ++ tag.val).length - tagLength = masked.length := by
    rw [List.length_append, tag.property, Nat.add_sub_cancel]
  simp only [decrypt?, front, List.take_left, List.drop_left]
  rw [if_neg (fun same => different (Subtype.ext same))]

namespace Envelope

/-- A payload with another tag at its end. -/
def retag (payload : Bytes) (tag : FixedBytes tagLength) : Bytes :=
  payload.take (payload.length - tagLength) ++ tag.val

/-- The envelope of a plaintext with another tag. -/
def createWithTag (algorithm : Algorithm) (key : CipherKey)
    (nonce : FixedBytes algorithm.nonceLength) (plaintext : Bytes) (tag : FixedBytes tagLength) :
    Envelope where
  header := .tagged algorithm
  nonce := nonce
  sealed := algorithm.aead.mask key nonce.val plaintext ++ tag.val
  tagLength_le := by simp [tag.property]

section Retag

variable (algorithm : Algorithm) (key : CipherKey) (nonce : FixedBytes algorithm.nonceLength)
  (plaintext : Bytes)

/-- The tag of a sealed payload stands at its end. -/
theorem create_eq_createWithTag :
    create algorithm key nonce plaintext =
      createWithTag algorithm key nonce plaintext (algorithm.aead.authenticate key nonce.val
        (algorithm.aead.mask key nonce.val plaintext)) :=
  rfl

theorem toBytes_createWithTag (tag : FixedBytes tagLength) :
    (createWithTag algorithm key nonce plaintext tag).toBytes =
      ((Header.tagged algorithm).toBytes ++ nonce.val ++
        algorithm.aead.mask key nonce.val plaintext) ++ tag.val := by
  simp [toBytes, createWithTag]

/-- Replacing the tag of a sealed payload gives the payload with the other tag. -/
theorem retag_toBytes_create (tag : FixedBytes tagLength) :
    retag (create algorithm key nonce plaintext).toBytes tag =
      (createWithTag algorithm key nonce plaintext tag).toBytes := by
  rw [retag, create_eq_createWithTag, toBytes_createWithTag, toBytes_createWithTag,
    List.length_append, (algorithm.aead.authenticate _ _ _).property, Nat.add_sub_cancel,
    List.take_left]

end Retag
end Envelope

namespace Codec

/-- A sealed payload with another tag does not open under the key that sealed it. -/
theorem not_authenticates_retag
    {algorithm : Algorithm}
    {cipherKey : CipherKey}
    {nonce : FixedBytes algorithm.nonceLength}
    {original : Bytes}
    {tag : FixedBytes tagLength}
    (different : Envelope.retag (Envelope.create algorithm cipherKey nonce original).toBytes tag ≠
      (Envelope.create algorithm cipherKey nonce original).toBytes)
    (plaintext : Bytes) :
    ¬ Authenticates cipherKey
      (Envelope.retag (Envelope.create algorithm cipherKey nonce original).toBytes tag)
      plaintext := by
  rintro ⟨envelope, parsed, opened⟩
  rw [Envelope.retag_toBytes_create, Envelope.parse_toBytes rfl] at parsed
  obtain rfl := Except.ok.inj parsed
  have otherTag : tag ≠ algorithm.aead.authenticate cipherKey nonce.val
      (algorithm.aead.mask cipherKey nonce.val original) := by
    rintro rfl
    exact different (Envelope.retag_toBytes_create _ _ _ _ _)
  have rejected := Aead.decrypt?_append_eq_none algorithm.aead otherTag
  exact Option.some_ne_none _ (opened.symm.trans rejected)

/-! ## Payloads with a header -/

section Tagged

variable {payload : Bytes}

/-- No token has the byte that names an algorithm. -/
theorem isTokenByte_tag (algorithm : Algorithm) :
    Base64.Token.isTokenByte algorithm.tag = false := by
  cases algorithm <;> decide

/-- Trimming a payload with a header takes away from its end only, and nothing from its header. -/
theorem trim_toBytes
    {envelope : Envelope}
    {algorithm : Algorithm}
    (headed : envelope.header = .tagged algorithm) :
    Bytes.trim envelope.toBytes =
      (Header.tagged algorithm).toBytes ++ trimEndWhile Bytes.isBlank envelope.body := by
  -- Trimming stops at the first byte of the mark and, from the end, at the tag of the algorithm.
  have bytes : envelope.toBytes =
      0x53 :: 0x42 :: 0x58 :: 0x31 :: algorithm.tag :: envelope.body := by
    rw [Envelope.toBytes_eq, headed]
    rfl
  have tagKept : Bytes.isBlank algorithm.tag = false := by cases algorithm <;> decide
  rw [bytes, Bytes.trim, trimWhile_cons_of_neg (by decide), trimEndWhile_cons_of_neg (by decide),
    trimEndWhile_cons_of_neg (by decide), trimEndWhile_cons_of_neg (by decide),
    trimEndWhile_cons_of_neg tagKept]
  rfl

/-- A payload with a header is no token. -/
theorem decode?_eq_none_of_isTagged
    (tagged : Envelope.isTagged payload = true) :
    Base64.Token.decode? payload = none := by
  obtain ⟨envelope, algorithm, headed, rfl⟩ := Envelope.isTagged_iff.mp tagged
  apply Base64.Token.decode?_eq_none_of_mem _ (isTokenByte_tag algorithm)
  rw [trim_toBytes headed, Header.toBytes]
  simp

/-- A payload with a header that does not open is reported as tampered with. -/
theorem openPayload_of_rejected
    {cipherKey : CipherKey}
    (tagged : Envelope.isTagged payload = true)
    (rejected : ∀ plaintext, ¬ Authenticates cipherKey payload plaintext) :
    openPayload cipherKey payload = .error .authenticationFailure := by
  obtain ⟨envelope, algorithm, headed, rfl⟩ := Envelope.isTagged_iff.mp tagged
  have parsed := Envelope.parse_toBytes headed
  have closed : envelope.decrypt? cipherKey = none := by
    rw [Option.eq_none_iff_forall_ne_some]
    intro plaintext opened
    exact rejected plaintext ⟨envelope, parsed, opened⟩
  exact openPayload_of_closed parsed closed

/-- A token of a payload with a header that does not open is refused as tampered with. -/
theorem decrypt_of_rejected
    {text key : Bytes}
    {cipherKey : CipherKey}
    (decoded : Base64.Token.decode? (Bytes.trim text) = some payload)
    (tagged : Envelope.isTagged payload = true)
    (unmarked : holdsPlaintext payload = false)
    (resolved : Key.resolve key = .ok cipherKey)
    (rejected : ∀ plaintext, ¬ Authenticates cipherKey payload plaintext) :
    decrypt text key = .error .authenticationFailure := by
  rw [decrypt_eq_attempts (trim_ne_nil_of_decode? decoded) resolved,
    Base64.Token.unwrap_of_decode? decoded, attempt_of_unmarked unmarked,
    openPayload_of_rejected tagged rejected, decode?_eq_none_of_isTagged tagged]

end Tagged

end Codec
end Lockbox
