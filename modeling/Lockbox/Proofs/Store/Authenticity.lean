import Lockbox.Proofs.Codec.Keys
import Lockbox.Proofs.Codec.Readings
import Lockbox.Proofs.Store.Steps
import Lockbox.Proofs.Text.Utf8

/-!
# Retrieved secrets are vouched for

Whoever wrote the file of a secret, what is read from it was sealed under the key of the store or
carries the marker of plaintext key material. The marker is not the only way past the tokens that
a store writes: an envelope that is a text counts as it is, too.
-/

namespace Lockbox
namespace FileStore

/-- A secret is vouched for by the content of its file: a reading of the content that decryption
tries holds the marker and is the secret, or it has none and authenticates the secret. -/
def Vouched (store : FileStore) (content secret : Bytes) : Prop :=
  ∃ payload, Codec.Tried store.masterKey.cipherKey content payload ∧
    Codec.Backs store.masterKey.cipherKey payload secret

section Content

variable {store : FileStore} {payload secret : Text}

/-- A payload opens to what it vouches for, unless that is empty, and to nothing else. -/
theorem openSecret_eq_ok_iff :
    store.openSecret payload = .ok secret ↔
      secret ≠ [] ∧ store.Vouched (Utf8.encode payload) (Utf8.encode secret) := by
  have nonempty : Utf8.encode secret ≠ [] ↔ secret ≠ [] := by
    constructor
    · rintro written rfl
      exact written rfl
    · exact Utf8.encode_ne_nil
  rw [Vouched, ← nonempty, ← Codec.decrypt_eq_ok_iff store.masterKey.resolve_cipherKeyText,
    openSecret]
  cases Codec.decrypt (Utf8.encode payload) store.masterKey.cipherKeyText with
  | error failure => simp [Except.map]
  | ok opened =>
      dsimp only [Except.map]
      constructor
      · intro isSecret
        cases decoded : Utf8.decode opened.plaintext with
        | error fault => simp [decoded] at isSecret
        | ok text =>
            rw [decoded] at isSecret
            cases isSecret
            rw [Utf8.encode_of_decode_eq_ok decoded]
      · intro isPlaintext
        rw [Except.ok.inj isPlaintext, Utf8.decode_encode]

theorem exists_decryption_of_openSecret_eq_error
    {failure : StoreError}
    (refused : store.openSecret payload = .error failure) :
    ∃ cause, failure = .decryption cause := by
  unfold openSecret at refused
  split at refused
  next cause _ => exact ⟨cause, (Except.error.inj refused).symm⟩
  next =>
    split at refused
    next fault _ => exact ⟨_, (Except.error.inj refused).symm⟩
    next => cases refused

end Content

/-- What is read from a file is vouched for by its content, whoever wrote it. Content that vouches
for nothing is refused as what cannot be decrypted, unless it is no text or cannot be locked. A
secret that a text vouches for is read, unless it is empty or its lock cannot be taken. -/
theorem get_vouched
    (store : FileStore)
    (machine : Machine)
    {mode : Nat}
    {content : Bytes}
    (stored : machine.files.status store.secretPath = .ok (.file mode content)) :
    (∀ secret, (store.get machine).1 = .ok secret →
      store.Vouched content (Utf8.encode secret)) ∧
    ((∀ secret, ¬ store.Vouched content (Utf8.encode secret)) →
      match (PrivateFile.lock store.secretPath machine).1, Utf8.decode content with
      | .error failure, _ => (store.get machine).1 = .error (.file store.secretPath failure)
      | .ok (), .error _ => (store.get machine).1 = .error (.file store.secretPath .notText)
      | .ok (), .ok _ => ∃ cause, (store.get machine).1 = .error (.decryption cause)) ∧
    (∀ secret text, secret ≠ [] → store.Vouched content (Utf8.encode secret) →
      (PrivateFile.lock store.secretPath machine).1 = .ok () → Utf8.decode content = .ok text →
      (store.get machine).1 = .ok secret) := by
  obtain ⟨changed, ran, -⟩ := run_get store machine
  obtain ⟨locked, lockRan, -⟩ := PrivateFile.run_lock store.secretPath machine
  rw [ran, lockRan]
  simp only [getOutcome, stored]
  cases PrivateFile.lockOutcome machine.files store.secretPath with
  | error failure => simp
  | ok =>
      cases decoded : Utf8.decode content with
      | error fault => simp [openNode, decoded]
      | ok payload =>
          have bytes := Utf8.encode_of_decode_eq_ok decoded
          simp only [openNode, decoded]
          rw [← bytes]
          refine ⟨fun secret opened => (openSecret_eq_ok_iff.mp opened).2, fun unvouched => ?_,
            fun secret text nonempty vouched _ _ => openSecret_eq_ok_iff.mpr ⟨nonempty, vouched⟩⟩
          cases opened : store.openSecret payload with
          | ok secret => exact absurd (openSecret_eq_ok_iff.mp opened).2 (unvouched secret)
          | error failure =>
              obtain ⟨cause, rfl⟩ := exists_decryption_of_openSecret_eq_error opened
              exact ⟨cause, rfl⟩

/-! ## Files that somebody else wrote -/

/-- A machine on which the file of a sample store has the given content. -/
def machineHolding (content : Bytes) : Machine where
  files := {
    entries := [(["s".toList], .directory 0o755),
      (["a_b.secret".toList, "s".toList], .file 0o600 content)]
    workingDirectory := [] }

/-- An envelope of the letter `A` under the key of the sample stores, all of ASCII bytes. -/
def asciiEnvelope : Bytes :=
  Header.mark ++ [0x01] ++ List.replicate 20 0x6E ++ [0x62, 0x53, 0x4E, 0x4E, 0x42] ++
    [0x31, 0x42, 0x1F, 0x2A, 0x03, 0x10, 0x15, 0x5E, 0x1C, 0x20, 0x6E, 0x17, 0x02, 0x04, 0x47, 0x40]

theorem get_vouched_token :
    (machineHolding (Encoding.toBase64 asciiEnvelope)).files.status
          (sample ['a'] ['b']).secretPath =
        .ok (.file 0o600 (Encoding.toBase64 asciiEnvelope)) ∧
      (sample ['a'] ['b']).Vouched (Encoding.toBase64 asciiEnvelope) (Utf8.encode ['A']) := by
  have stored : (machineHolding (Encoding.toBase64 asciiEnvelope)).files.status
      (sample ['a'] ['b']).secretPath = .ok (.file 0o600 (Encoding.toBase64 asciiEnvelope)) := by
    decide +kernel
  refine ⟨stored, (get_vouched (sample ['a'] ['b']) _ stored).1 ['A'] ?_⟩
  decide +kernel

/-- Not all that is read was authenticated by a token: a note with the marker is read as it is,
although no key was used, and an envelope counts without being a token. What is no text is not
refused as what cannot be decrypted. -/
theorem get_beyond_tokens :
    (((sample ['a'] ['b']).get (machineHolding (Utf8.encode "BEGIN me".toList))).1 =
        .ok "BEGIN me".toList ∧
      ∀ payload plaintext, Codec.Reading (Utf8.encode "BEGIN me".toList) payload →
        ¬ Codec.Authenticates (sample ['a'] ['b']).masterKey.cipherKey payload plaintext) ∧
    (((sample ['a'] ['b']).get (machineHolding asciiEnvelope)).1 = .ok ['A'] ∧
      Base64.Token.decode? (Bytes.trim asciiEnvelope) = none) ∧
    ((sample ['a'] ['b']).get (machineHolding [0xFF])).1 =
      .error (.file (sample ['a'] ['b']).secretPath .notText) := by
  have noToken : Base64.Token.decode? (Bytes.trim (Utf8.encode "BEGIN me".toList)) = none := by
    decide +kernel
  refine ⟨⟨by decide +kernel, ?_⟩, ⟨by decide +kernel, by decide +kernel⟩, by decide +kernel⟩
  rintro payload plaintext reading ⟨envelope, parsed, -⟩
  cases reading with
  | plain =>
      have short : Envelope.parse (Bytes.trim (Utf8.encode "BEGIN me".toList)) =
          .error (.payloadTooShort 8 40) := rfl
      rw [short] at parsed
      cases parsed
  | once decoded =>
      rw [noToken] at decoded
      cases decoded
  | twice decoded _ =>
      rw [noToken] at decoded
      cases decoded

end FileStore
end Lockbox
