import Lockbox.Proofs.Codec.Attempts
import Lockbox.Proofs.Store.Tampering

/-!
# The second attempt

When the tag of a payload does not match and the payload is a token, decryption ends as the attempt
at what the token spells (`Codec.decrypt_of_closed`). That attempt gives a plaintext or reports that
a tag does not match exactly when the second payload is plaintext key material, or an envelope that
does not hold an empty plaintext (`Codec.isConclusive_iff`). Otherwise the error of the second
attempt hides that the tag of the first payload did not match (`FileStore.get_hidden_failure`).
-/

namespace Lockbox

namespace Codec

/-- A payload that is plaintext key material, or an envelope that does not hold an empty
plaintext. -/
def IsConclusive (cipherKey : CipherKey) (payload : Bytes) : Prop :=
  holdsPlaintext payload = true ∨
    ∃ envelope, Envelope.parse payload = .ok envelope ∧ envelope.decrypt? cipherKey ≠ some []

/-- What a payload spells, if it spells anything, is conclusive. -/
def SpellsConclusive (cipherKey : CipherKey) (payload : Bytes) : Prop :=
  ∀ inner, Base64.Token.decode? payload = some inner → IsConclusive cipherKey inner

/-- What a payload spells has been opened, or the payload has been refused as tampered with. -/
def RetriedOrRefused (cipherKey : CipherKey) (payload : Bytes)
    (outcome : Except CodecError Opened) : Prop :=
  (∃ inner opened, Base64.Token.decode? payload = some inner ∧
    attempt cipherKey inner = .ok opened ∧ outcome = .ok opened) ∨
  outcome = .error .authenticationFailure

section Retry

variable {cipherKey : CipherKey}

/-- An attempt at a payload gives a plaintext or reports that its tag does not match exactly if the
payload is conclusive. -/
theorem isConclusive_iff
    {payload : Bytes} :
    IsConclusive cipherKey payload ↔
      (∃ opened, attempt cipherKey payload = .ok opened) ∨
        attempt cipherKey payload = .error .authenticationFailure := by
  have ended := attempted_attempt cipherKey payload
  generalize attempt cipherKey payload = outcome at ended ⊢
  cases ended with
  | passed marked => exact iff_of_true (Or.inl marked) (Or.inl ⟨_, rfl⟩)
  | @malformed failure unmarked refused =>
      have noTag : failure ≠ .authenticationFailure := by
        rintro rfl
        exact Envelope.parse_ne_authenticationFailure payload refused
      simp [IsConclusive, unmarked, refused, noTag]
  | rejected unmarked parsed closed =>
      exact iff_of_true (Or.inr ⟨_, parsed, by simp [closed]⟩) (Or.inr rfl)
  | hollow unmarked parsed opened => simp [IsConclusive, unmarked, parsed, opened]
  | opened unmarked parsed opened nonempty =>
      exact iff_of_true (Or.inr ⟨_, parsed, by simp [opened, nonempty]⟩) (Or.inl ⟨_, rfl⟩)

variable {data key : Bytes} {envelope : Envelope}

/-- What stands for an envelope is not blank. -/
theorem trim_ne_nil_of_parse_unwrap
    (parsed : Envelope.parse (Base64.Token.unwrap (Bytes.trim data)) = .ok envelope) :
    Bytes.trim data ≠ [] := by
  intro blank
  have length := envelope.twelve_le_length_toBytes
  rw [Envelope.toBytes_of_parse_eq_ok parsed, Base64.Token.unwrap_eq_nil_iff.mpr blank] at length
  exact absurd length (by decide)

/-- If the tag of a payload does not match, then decryption ends as the attempt at what the payload
spells. -/
theorem decrypt_of_closed
    (unmarked : holdsPlaintext (Base64.Token.unwrap (Bytes.trim data)) = false)
    (parsed : Envelope.parse (Base64.Token.unwrap (Bytes.trim data)) = .ok envelope)
    (closed : envelope.decrypt? cipherKey = none)
    (resolved : Key.resolve key = .ok cipherKey) :
    decrypt data key =
      match Base64.Token.decode? (Base64.Token.unwrap (Bytes.trim data)) with
      | none => .error .authenticationFailure
      | some inner => attempt cipherKey inner := by
  rw [decrypt_eq_attempts (trim_ne_nil_of_parse_unwrap parsed) resolved,
    attempt_of_unmarked unmarked, openPayload_of_closed parsed closed]
  cases Base64.Token.decode? (Base64.Token.unwrap (Bytes.trim data)) <;> rfl

/-- If the tag of a payload does not match, then what the payload spells is opened or the payload is
refused as tampered with, exactly if what it spells is conclusive. -/
theorem retriedOrRefused_iff
    (unmarked : holdsPlaintext (Base64.Token.unwrap (Bytes.trim data)) = false)
    (parsed : Envelope.parse (Base64.Token.unwrap (Bytes.trim data)) = .ok envelope)
    (closed : envelope.decrypt? cipherKey = none)
    (resolved : Key.resolve key = .ok cipherKey) :
    RetriedOrRefused cipherKey (Base64.Token.unwrap (Bytes.trim data)) (decrypt data key) ↔
      SpellsConclusive cipherKey (Base64.Token.unwrap (Bytes.trim data)) := by
  rw [decrypt_of_closed unmarked parsed closed resolved, RetriedOrRefused, SpellsConclusive]
  cases Base64.Token.decode? (Base64.Token.unwrap (Bytes.trim data)) with
  | none => simp
  | some inner => simp [isConclusive_iff]

end Retry

end Codec

namespace FileStore

open FileSystem

/-- How a store reports content that decryption does not open: as tampered with, unless the lock
cannot be taken or the content is no text. -/
def FailureReported (store : FileStore) (machine : Machine) (content : Bytes) : Prop :=
  match (PrivateFile.lock store.secretPath machine).1, Utf8.decode content with
  | .error failure, _ => (store.get machine).1 = .error (.file store.secretPath failure)
  | .ok (), .error _ => (store.get machine).1 = .error (.file store.secretPath .notText)
  | .ok (), .ok _ =>
    ∃ failure, (store.get machine).1 = .error failure ∧ failure.isAuthenticationFailure = true

/-- A store reports content that is refused as tampered with. -/
theorem failureReported_of_decrypt
    {store : FileStore}
    {machine : Machine}
    {mode : Nat}
    {content : Bytes}
    (found : machine.files.status store.secretPath = .ok (.file mode content))
    (refused : Codec.decrypt content store.masterKey.cipherKeyText =
      .error .authenticationFailure) :
    store.FailureReported machine content := by
  rw [FailureReported, get_of_status found]
  cases (PrivateFile.lock store.secretPath machine).1 with
  | error failure => rfl
  | ok =>
      cases decoded : Utf8.decode content with
      | error fault => simp [openNode, decoded]
      | ok text => exact ⟨_, openNode_of_decrypt_eq_error decoded refused mode, rfl⟩

/-- If the tag of a payload does not match, then the payload is refused as tampered with, or what
it spells is opened, exactly if what it spells is plaintext key material or an envelope that does
not hold an empty plaintext. A store whose file is then not opened reports it as tampered with. -/
theorem retriedOrRefused_of_closed
    {data : Bytes}
    {cipherKey : CipherKey}
    {envelope : Envelope}
    (unmarked : Codec.holdsPlaintext (Base64.Token.unwrap (Bytes.trim data)) = false)
    (parsed : Envelope.parse (Base64.Token.unwrap (Bytes.trim data)) = .ok envelope)
    (closed : envelope.decrypt? cipherKey = none) :
    (∀ key, Key.resolve key = .ok cipherKey →
      (Codec.RetriedOrRefused cipherKey (Base64.Token.unwrap (Bytes.trim data))
          (Codec.decrypt data key) ↔
        Codec.SpellsConclusive cipherKey (Base64.Token.unwrap (Bytes.trim data)))) ∧
    (Codec.SpellsConclusive cipherKey (Base64.Token.unwrap (Bytes.trim data)) →
      ∀ (store : FileStore) (machine : Machine) (mode : Nat),
        store.masterKey.cipherKey = cipherKey →
        machine.files.status store.secretPath = .ok (.file mode data) →
        (∀ opened, Codec.decrypt data store.masterKey.cipherKeyText ≠ .ok opened) →
        store.FailureReported machine data) := by
  have settled := fun key (resolved : Key.resolve key = .ok cipherKey) =>
    Codec.retriedOrRefused_iff unmarked parsed closed resolved
  refine ⟨settled, ?_⟩
  rintro conclusive store machine mode rfl found unopened
  have retried := (settled _ store.masterKey.resolve_cipherKeyText).mpr conclusive
  rcases retried with ⟨inner, opened, -, -, decrypted⟩ | refused
  · exact absurd decrypted (unopened opened)
  · exact failureReported_of_decrypt found refused

/-! ## Samples -/

/-- The text of a payload that opens under no key of the samples, in the file of a store. -/
theorem retriedOrRefused_of_closed_text :
    Codec.RetriedOrRefused (sample ['a'] ['b']).masterKey.cipherKey (Encoding.toBase64 blankPayload)
        (Codec.decrypt (Encoding.toBase64 (Encoding.toBase64 blankPayload))
          (sample ['a'] ['b']).masterKey.cipherKeyText) ∧
      (sample ['a'] ['b']).FailureReported
        (machineHolding (Encoding.toBase64 (Encoding.toBase64 blankPayload)))
        (Encoding.toBase64 (Encoding.toBase64 blankPayload)) := by
  have unwrapped : Base64.Token.unwrap
      (Bytes.trim (Encoding.toBase64 (Encoding.toBase64 blankPayload))) =
        Encoding.toBase64 blankPayload := by
    decide +kernel
  have unmarked : Codec.holdsPlaintext (Encoding.toBase64 blankPayload) = false := by
    decide +kernel
  obtain ⟨envelope, parsed, closed⟩ : ∃ envelope,
      Envelope.parse (Encoding.toBase64 blankPayload) = .ok envelope ∧
        envelope.decrypt? (sample ['a'] ['b']).masterKey.cipherKey = none :=
    Envelope.exists_parse_and_decrypt?_iff.mpr (by decide +kernel)
  obtain ⟨blankEnvelope, blankParsed⟩ :=
    Envelope.exists_parse_of_isTagged (show Envelope.isTagged blankPayload = true by decide +kernel)
  have spelled : Base64.Token.decode? (Encoding.toBase64 blankPayload) = some blankPayload := by
    decide +kernel
  have conclusive : Codec.SpellsConclusive (sample ['a'] ['b']).masterKey.cipherKey
      (Encoding.toBase64 blankPayload) := by
    intro inner decoded
    obtain rfl := Option.some.inj (spelled.symm.trans decoded)
    refine Or.inr ⟨blankEnvelope, blankParsed, fun opened => ?_⟩
    exact not_authenticates_blankPayload [] ⟨blankEnvelope, blankParsed, opened⟩
  rw [← unwrapped] at unmarked parsed conclusive
  obtain ⟨settled, reported⟩ := retriedOrRefused_of_closed unmarked parsed closed
  have retried := (settled _ (sample ['a'] ['b']).masterKey.resolve_cipherKeyText).mpr conclusive
  rw [unwrapped] at retried
  refine ⟨retried, reported conclusive (sample ['a'] ['b']) _ 0o600 rfl (by decide +kernel) ?_⟩
  intro opened decrypted
  have refused : Codec.decrypt (Encoding.toBase64 (Encoding.toBase64 blankPayload))
      (sample ['a'] ['b']).masterKey.cipherKeyText = .error .authenticationFailure := by
    decide +kernel
  cases refused.symm.trans decrypted

/-- Forty letters `A`, which are also the Base64 text of thirty bytes. -/
def letters : Bytes :=
  List.replicate 40 0x41

/-- The tag of forty letters does not match, but the store reports that the thirty bytes that they
spell are too short. -/
theorem get_hidden_failure :
    Base64.Token.decode? (Bytes.trim (Encoding.toBase64 letters)) = some letters ∧
      Codec.holdsPlaintext letters = false ∧
      (∃ envelope, Envelope.parse letters = .ok envelope ∧
        envelope.decrypt? (sample ['a'] ['b']).masterKey.cipherKey = none) ∧
      Codec.decrypt (Encoding.toBase64 letters) (sample ['a'] ['b']).masterKey.cipherKeyText =
        .error (.payloadTooShort 30 40) ∧
      ∃ failure, ((sample ['a'] ['b']).get (machineHolding (Encoding.toBase64 letters))).1 =
          .error failure ∧ failure.isAuthenticationFailure = false := by
  have closed : (Envelope.parse letters).map
      (·.decrypt? (sample ['a'] ['b']).masterKey.cipherKey) = .ok none := by
    decide +kernel
  exact ⟨by decide +kernel, by decide +kernel, Envelope.exists_parse_and_decrypt?_iff.mpr closed,
    by decide +kernel, .decryption (.payloadTooShort 30 40), by decide +kernel, rfl⟩

end FileStore
end Lockbox
