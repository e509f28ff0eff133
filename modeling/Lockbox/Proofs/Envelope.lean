import Lockbox.Envelope

/-!
# Envelopes survive their bytes

The bytes of an envelope with a header are taken apart into the same envelope
(`parse_toBytes`), and bytes that are taken apart at all are those of the envelope found
(`toBytes_of_parse_eq_ok`). Bytes count as tagged when they are those of an envelope with a header
(`isTagged_iff`). A payload has one of two forms, and it is taken apart exactly when it has
(`exists_parse_eq_ok_iff`).
-/

namespace Lockbox

namespace Header

/-- Nothing follows the format mark exactly when a payload does not begin with it. -/
theorem afterMark?_eq_none_iff
    {payload : Bytes} :
    afterMark? payload = none ↔ ¬ mark <+: payload := by
  rw [List.prefix_iff_eq_take, eq_comm (a := mark), afterMark?]
  split <;> simp_all

end Header

namespace Envelope

/-- The bytes behind a header. -/
def body (envelope : Envelope) : Bytes :=
  envelope.nonce.val ++ envelope.sealed

theorem toBytes_eq (envelope : Envelope) :
    envelope.toBytes = envelope.header.toBytes ++ envelope.body := by
  rw [toBytes, body, List.append_assoc]

theorem length_body (envelope : Envelope) :
    envelope.body.length = envelope.header.algorithm.nonceLength + envelope.sealed.length := by
  rw [body, List.length_append, envelope.nonce.property]

/-- Every body has room for a nonce and a tag. -/
theorem minimumBody_le_length_body (envelope : Envelope) :
    envelope.header.algorithm.minimumBody ≤ envelope.body.length := by
  rw [length_body, Algorithm.minimumBody]
  exact Nat.add_le_add_left envelope.tagLength_le _

/-- A header and a body make up the envelope that they came from. -/
theorem ofBody_body (envelope : Envelope) :
    ofBody envelope.header envelope.body = .ok envelope := by
  obtain ⟨header, ⟨nonce, nonceLength⟩, sealedText, enough⟩ := envelope
  have fits := minimumBody_le_length_body
    ⟨header, ⟨nonce, nonceLength⟩, sealedText, enough⟩
  unfold ofBody
  rw [dif_pos fits]
  congr 2
  · exact Subtype.ext (List.take_left' nonceLength)
  · exact List.drop_left' nonceLength

/-- A body with room for a nonce and a tag makes an envelope. -/
theorem exists_ofBody_eq_ok
    (header : Header)
    (body : Bytes)
    (enough : header.algorithm.minimumBody ≤ body.length) :
    ∃ envelope, ofBody header body = .ok envelope := by
  rw [ofBody, dif_pos enough]
  exact ⟨_, rfl⟩

/-- What is made of a header and a body has them. -/
theorem header_body_of_ofBody_eq_ok
    {header : Header}
    {body : Bytes}
    {envelope : Envelope}
    (made : ofBody header body = .ok envelope) :
    envelope.header = header ∧ envelope.body = body := by
  unfold ofBody at made
  split at made
  next =>
    obtain rfl := Except.ok.inj made
    exact ⟨rfl, List.take_append_drop _ _⟩
  next => cases made

/-- Behind the format mark of an envelope with a header stand the tag of its algorithm and its
body. -/
theorem afterMark?_toBytes
    {envelope : Envelope}
    {algorithm : Algorithm}
    (headed : envelope.header = .tagged algorithm) :
    Header.afterMark? envelope.toBytes = some (algorithm.tag :: envelope.body) := by
  rw [Header.afterMark?_eq_some_iff, toBytes_eq, headed, Header.toBytes, List.append_assoc,
    List.singleton_append]

/-- Behind the bytes of a header stands a body for its algorithm. -/
theorem parse_tagged
    (algorithm : Algorithm)
    (body : Bytes) :
    parse ((Header.tagged algorithm).toBytes ++ body) = ofBody (.tagged algorithm) body := by
  have marked : Header.afterMark? ((Header.tagged algorithm).toBytes ++ body) =
      some (algorithm.tag :: body) := by
    rw [Header.afterMark?_eq_some_iff, Header.toBytes, List.append_assoc, List.singleton_append]
  rw [parse, marked]
  simp only [Algorithm.ofTag?_tag]

/-- The bytes of an envelope with a header are taken apart into this envelope. -/
theorem parse_toBytes
    {envelope : Envelope}
    {algorithm : Algorithm}
    (headed : envelope.header = .tagged algorithm) :
    parse envelope.toBytes = .ok envelope := by
  rw [toBytes_eq, headed, parse_tagged, ← headed]
  exact ofBody_body envelope

/-- An envelope that cannot be taken for another one: without a header, its bytes do not begin with
the format mark. -/
def IsUnmistakable (envelope : Envelope) : Prop :=
  envelope.header = .headerless → Header.afterMark? envelope.toBytes = none

/-- The bytes of an envelope that cannot be taken for another one are taken apart into it. -/
theorem parse_toBytes_of_isUnmistakable
    {envelope : Envelope}
    (unmistakable : envelope.IsUnmistakable) :
    parse envelope.toBytes = .ok envelope := by
  cases headed : envelope.header with
  | tagged algorithm => exact parse_toBytes headed
  | headerless =>
      have bytes : envelope.toBytes = envelope.body := by
        rw [toBytes_eq, headed]
        rfl
      have body := ofBody_body envelope
      rw [headed] at body
      rw [parse, unmistakable headed, bytes]
      exact body

/-- Bytes that can be taken apart are a body without the format mark, or a body behind the mark and
the tag of an algorithm. -/
theorem ofBody_of_parse_eq_ok
    {payload : Bytes}
    {envelope : Envelope}
    (parsed : parse payload = .ok envelope) :
    Header.afterMark? payload = none ∧ ofBody .headerless payload = .ok envelope ∨
      ∃ algorithm body, Header.afterMark? payload = some (algorithm.tag :: body) ∧
        ofBody (.tagged algorithm) body = .ok envelope := by
  unfold parse at parsed
  split at parsed
  next unmarked => exact Or.inl ⟨unmarked, parsed⟩
  next => cases parsed
  next tag body marked =>
    split at parsed
    next => cases parsed
    next algorithm known =>
      rw [Algorithm.ofTag?_eq_some_iff.mp known] at marked
      exact Or.inr ⟨algorithm, body, marked, parsed⟩

/-- Bytes that can be taken apart are those of the envelope that they give. -/
theorem toBytes_of_parse_eq_ok
    {payload : Bytes}
    {envelope : Envelope}
    (parsed : parse payload = .ok envelope) :
    envelope.toBytes = payload := by
  rcases ofBody_of_parse_eq_ok parsed with ⟨-, made⟩ | ⟨algorithm, body, marked, made⟩
  · obtain ⟨headless, rest⟩ := header_body_of_ofBody_eq_ok made
    rw [toBytes_eq, headless, rest]
    rfl
  · obtain ⟨headed, rest⟩ := header_body_of_ofBody_eq_ok made
    rw [toBytes_eq, headed, rest, Header.afterMark?_eq_some_iff.mp marked, Header.toBytes,
      List.append_assoc, List.singleton_append]

/-- A payload is tagged exactly when it is made up of the bytes of an envelope with a header. -/
theorem isTagged_iff
    {payload : Bytes} :
    isTagged payload = true ↔
      ∃ (envelope : Envelope) (algorithm : Algorithm),
        envelope.header = .tagged algorithm ∧ envelope.toBytes = payload := by
  constructor
  · intro tagged
    unfold isTagged at tagged
    split at tagged
    next tag body marked =>
      split at tagged
      next algorithm known =>
        obtain ⟨envelope, made⟩ := exists_ofBody_eq_ok (.tagged algorithm) body
          (of_decide_eq_true tagged)
        obtain ⟨headed, rest⟩ := header_body_of_ofBody_eq_ok made
        refine ⟨envelope, algorithm, headed, ?_⟩
        rw [toBytes_eq, headed, rest, Header.afterMark?_eq_some_iff.mp marked, Header.toBytes,
          Algorithm.ofTag?_eq_some_iff.mp known, List.append_assoc, List.singleton_append]
      next => cases tagged
    next => cases tagged
  · rintro ⟨envelope, algorithm, headed, rfl⟩
    have room := minimumBody_le_length_body envelope
    rw [headed] at room
    simp only [isTagged, afterMark?_toBytes headed, Algorithm.ofTag?_tag, decide_eq_true_eq]
    exact room

/-- Tagged bytes can be taken apart. -/
theorem exists_parse_of_isTagged
    {payload : Bytes}
    (tagged : isTagged payload = true) :
    ∃ envelope, parse payload = .ok envelope := by
  obtain ⟨envelope, algorithm, headed, rfl⟩ := isTagged_iff.mp tagged
  exact ⟨envelope, parse_toBytes headed⟩

/-- Whether a payload is an envelope that opens in a given way can be computed. -/
theorem exists_parse_and_decrypt?_iff
    {payload : Bytes}
    {key : CipherKey}
    {opened : Option Bytes} :
    (∃ envelope, parse payload = .ok envelope ∧ envelope.decrypt? key = opened) ↔
      (parse payload).map (·.decrypt? key) = .ok opened := by
  cases parse payload <;> simp [Except.map]

/-! ## The two forms of a payload -/

theorem lt_of_ofBody_eq_error
    {header : Header}
    {body : Bytes}
    {length minimum : Nat}
    (refused : ofBody header body = .error (.payloadTooShort length minimum)) :
    length < minimum := by
  unfold ofBody at refused
  split at refused
  next => cases refused
  next short =>
    cases refused
    exact Nat.lt_of_not_le short

/-- An envelope is found to have no header exactly where there is no format mark. -/
theorem header_eq_headerless_iff
    {payload : Bytes}
    {envelope : Envelope}
    (parsed : parse payload = .ok envelope) :
    envelope.header = .headerless ↔ ¬ Header.mark <+: payload := by
  rw [← Header.afterMark?_eq_none_iff]
  rcases ofBody_of_parse_eq_ok parsed with ⟨unmarked, made⟩ | ⟨algorithm, body, marked, made⟩
  · rw [(header_body_of_ofBody_eq_ok made).1]
    exact iff_of_true rfl unmarked
  · rw [(header_body_of_ofBody_eq_ok made).1, marked]
    exact iff_of_false nofun nofun

/-- A payload can be taken apart exactly when it has one of two forms: behind the format mark stand
the tag of an algorithm and a body for it, or there is no mark and the whole payload is a body. -/
theorem exists_parse_eq_ok_iff
    {payload : Bytes} :
    (∃ envelope, parse payload = .ok envelope) ↔
      (∃ algorithm body, payload = (Header.tagged algorithm).toBytes ++ body ∧
        algorithm.minimumBody ≤ body.length) ∨
      ¬ Header.mark <+: payload ∧ Algorithm.xChaCha20Poly1305.minimumBody ≤ payload.length := by
  constructor
  · rintro ⟨envelope, parsed⟩
    have room := minimumBody_le_length_body envelope
    have bytes := toBytes_of_parse_eq_ok parsed
    rw [toBytes_eq] at bytes
    cases headed : envelope.header with
    | tagged algorithm =>
        rw [headed] at bytes room
        exact Or.inl ⟨algorithm, envelope.body, bytes.symm, room⟩
    | headerless =>
        rw [headed] at bytes room
        rw [← bytes]
        exact Or.inr ⟨bytes ▸ (header_eq_headerless_iff parsed).mp headed, room⟩
  · rintro (⟨algorithm, body, rfl, room⟩ | ⟨unmarked, room⟩)
    · rw [parse_tagged]
      exact exists_ofBody_eq_ok (.tagged algorithm) body room
    · rw [parse, Header.afterMark?_eq_none_iff.mpr unmarked]
      exact exists_ofBody_eq_ok .headerless payload room

/-- A payload that is refused as too short is shorter than what it is asked for. -/
theorem lt_of_parse_eq_error
    {payload : Bytes}
    {length minimum : Nat}
    (refused : parse payload = .error (.payloadTooShort length minimum)) :
    length < minimum := by
  unfold parse at refused
  split at refused
  next => exact lt_of_ofBody_eq_error refused
  next marked =>
    -- Nothing but the mark is there.
    cases refused
    rw [Header.afterMark?_eq_some_iff.mp marked]
    decide
  next =>
    split at refused
    next => cases refused
    next => exact lt_of_ofBody_eq_error refused

/-- The two readers agree: a payload is tagged exactly when it begins with the format mark and can
be taken apart. -/
theorem isTagged_iff_marked
    {payload : Bytes} :
    isTagged payload = true ↔
      Header.mark <+: payload ∧ ∃ envelope, parse payload = .ok envelope := by
  constructor
  · intro tagged
    refine ⟨?_, exists_parse_of_isTagged tagged⟩
    obtain ⟨envelope, algorithm, headed, rfl⟩ := isTagged_iff.mp tagged
    rw [toBytes_eq, headed, Header.toBytes, List.append_assoc]
    exact List.prefix_append ..
  · rintro ⟨marked, envelope, parsed⟩
    cases headed : envelope.header with
    | tagged algorithm =>
        exact isTagged_iff.mpr ⟨envelope, algorithm, headed, toBytes_of_parse_eq_ok parsed⟩
    | headerless => exact absurd marked ((header_eq_headerless_iff parsed).mp headed)

/-- Taking payloads apart is exact. It succeeds when a payload begins with the format mark, the tag
of an algorithm and room for a nonce and a tag, or has no mark and room for those of
XChaCha20-Poly1305; it loses nothing; a payload that is too short is shorter than what is asked for;
to be tagged is to begin with the mark and be taken apart; and what is sealed is taken apart into
its algorithm, its nonce and its encrypted text. -/
theorem parse_exact (payload : Bytes) :
    ((∃ envelope, parse payload = .ok envelope) ↔
      (∃ (algorithm : Algorithm) (body : Bytes),
        payload = Utf8.encode "SBX1".toList ++ algorithm.tag :: body ∧
        algorithm.nonceLength + 16 ≤ body.length) ∨
      ¬ Utf8.encode "SBX1".toList <+: payload ∧ 40 ≤ payload.length) ∧
    (∀ envelope, parse payload = .ok envelope →
      envelope.nonce.val.length = envelope.header.algorithm.nonceLength ∧
      16 ≤ envelope.sealed.length ∧
      envelope.header.toBytes ++ envelope.nonce.val ++ envelope.sealed = payload ∧
      (envelope.header = .headerless ↔ ¬ Utf8.encode "SBX1".toList <+: payload)) ∧
    (∀ length minimum, parse payload = .error (.payloadTooShort length minimum) →
      length < minimum) ∧
    (isTagged payload = true ↔
      Utf8.encode "SBX1".toList <+: payload ∧ ∃ envelope, parse payload = .ok envelope) ∧
    ∀ algorithm key nonce plaintext, ∃ envelope,
      parse (create algorithm key nonce plaintext).toBytes = .ok envelope ∧
      envelope.header = .tagged algorithm ∧
      envelope.nonce.val = nonce.val ∧
      envelope.sealed = algorithm.aead.encrypt key nonce.val plaintext := by
  have mark : Utf8.encode "SBX1".toList = Header.mark := by decide
  rw [mark]
  refine ⟨?_, ?_, ?_, isTagged_iff_marked, ?_⟩
  · rw [exists_parse_eq_ok_iff]
    simp only [Header.toBytes, List.append_assoc, List.singleton_append]
    exact Iff.rfl
  · intro envelope parsed
    exact ⟨envelope.nonce.property, envelope.tagLength_le, toBytes_of_parse_eq_ok parsed,
      header_eq_headerless_iff parsed⟩
  · intro length minimum
    exact lt_of_parse_eq_error
  · intro algorithm key nonce plaintext
    exact ⟨_, parse_toBytes rfl, rfl, rfl, rfl⟩

/-- The shortest payload under AES-256-GCM, and one that is shorter by a byte. -/
theorem parse_exact_shortest :
    isTagged (Header.mark ++ 2 :: List.replicate 28 0) = true ∧
      parse (Header.mark ++ 2 :: List.replicate 27 0) = .error (.payloadTooShort 27 28) ∧
      27 < 28 := by
  obtain ⟨accepts, -, -, tagged, -⟩ := parse_exact (Header.mark ++ 2 :: List.replicate 28 0)
  obtain ⟨-, -, short, -, -⟩ := parse_exact (Header.mark ++ 2 :: List.replicate 27 0)
  have mark : Utf8.encode "SBX1".toList = Header.mark := by decide
  have refused :
      parse (Header.mark ++ 2 :: List.replicate 27 0) = .error (.payloadTooShort 27 28) := rfl
  refine ⟨tagged.mpr ⟨mark ▸ List.prefix_append .., accepts.mpr (Or.inl ?_)⟩, refused,
    short 27 28 refused⟩
  exact ⟨.aes256Gcm, List.replicate 28 0, by decide, by decide⟩

/-! ## Sealed plaintexts -/

/-- The envelope of a plaintext behind a header or, in the older form, behind none. -/
def behind (header : Header) (key : CipherKey)
    (nonce : FixedBytes header.algorithm.nonceLength) (plaintext : Bytes) : Envelope where
  header := header
  nonce := nonce
  sealed := header.algorithm.aead.encrypt key nonce.val plaintext
  tagLength_le := by simp

@[simp] theorem decrypt?_behind
    (header : Header)
    (key : CipherKey)
    (nonce : FixedBytes header.algorithm.nonceLength)
    (plaintext : Bytes) :
    (behind header key nonce plaintext).decrypt? key = some plaintext :=
  header.algorithm.aead.decrypt?_encrypt key nonce.val plaintext

/-- An envelope that can be opened is as much longer than its plaintext as the nonce and the tag
are long. -/
theorem length_body_of_decrypt?
    {envelope : Envelope}
    {key : CipherKey}
    {plaintext : Bytes}
    (opened : envelope.decrypt? key = some plaintext) :
    envelope.body.length = envelope.header.algorithm.minimumBody + plaintext.length := by
  have encrypted := (Aead.decrypt?_eq_some_iff _ _ _ _ _).mp opened
  rw [length_body, encrypted, Aead.length_encrypt, Algorithm.minimumBody]
  omega

/-- The bytes of every envelope are enough for a token. -/
theorem twelve_le_length_toBytes (envelope : Envelope) : 12 ≤ envelope.toBytes.length := by
  have room := envelope.tagLength_le
  rw [toBytes, List.length_append]
  rw [tagLength] at room
  omega

end Envelope
end Lockbox
