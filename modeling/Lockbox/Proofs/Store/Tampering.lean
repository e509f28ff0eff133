import Lockbox.Proofs.Codec.Tampering
import Lockbox.Proofs.Store.Authenticity

/-!
# Tampering is reported

A payload with a header that does not open is refused as tampered with, in whatever spelling it is
given to decryption or found in the file of a store. A store reports nothing but the failure of its
lock when the lock cannot be taken.
-/

namespace Lockbox
namespace FileStore

open FileSystem

/-- How reading a file whose content is reported as tampered with fails. -/
def TamperingReported (store : FileStore) (machine : Machine) : Prop :=
  match (PrivateFile.lock store.secretPath machine).1 with
  | .error failure => (store.get machine).1 = .error (.file store.secretPath failure)
  | .ok () =>
    ∃ failure, (store.get machine).1 = .error failure ∧ failure.isAuthenticationFailure = true

/-- Every spelling of a payload is refused as tampered with under a cipher key: by decryption, and
by every store that derives this key and has the spelling in its file. -/
def RefusedAsTampered (cipherKey : CipherKey) (payload : Bytes) : Prop :=
  ∀ text, Base64.Spelling (Encoding.toBase64 payload) text →
    (∀ key, Key.resolve key = .ok cipherKey →
      Codec.decrypt text key = .error .authenticationFailure) ∧
    ∀ (store : FileStore) (machine : Machine) (mode : Nat),
      store.masterKey.cipherKey = cipherKey →
      machine.files.status store.secretPath = .ok (.file mode text) →
      store.TamperingReported machine

/-- A store reports what decryption says about the text in its file. -/
theorem openNode_of_decrypt_eq_error
    {store : FileStore}
    {content : Bytes}
    {text : Text}
    {failure : CodecError}
    (decoded : Utf8.decode content = .ok text)
    (refused : Codec.decrypt content store.masterKey.cipherKeyText = .error failure)
    (mode : Nat) :
    store.openNode (.file mode content) = .error (.decryption failure) := by
  simp only [openNode, decoded, openSecret, Utf8.encode_of_decode_eq_ok decoded, refused]

theorem tamperingReported_of_openNode
    {store : FileStore}
    {machine : Machine}
    {node : Node}
    (found : machine.files.status store.secretPath = .ok node)
    (refused : store.openNode node = .error (.decryption .authenticationFailure)) :
    store.TamperingReported machine := by
  rw [TamperingReported, get_of_status found]
  cases (PrivateFile.lock store.secretPath machine).1 with
  | error failure => rfl
  | ok => exact ⟨_, refused, rfl⟩

/-- A payload with a header that does not open is refused as tampered with. -/
theorem refused_of_isTagged
    {cipherKey : CipherKey}
    {payload : Bytes}
    (tagged : Envelope.isTagged payload = true)
    (unmarked : Codec.holdsPlaintext payload = false)
    (rejected : ∀ plaintext, ¬ Codec.Authenticates cipherKey payload plaintext) :
    RefusedAsTampered cipherKey payload := by
  intro text spelling
  have long : 12 ≤ payload.length := by
    obtain ⟨envelope, algorithm, -, bytes⟩ := Envelope.isTagged_iff.mp tagged
    rw [← bytes]
    exact envelope.twelve_le_length_toBytes
  have decoded := Base64.Token.decode?_of_spelling long spelling
  refine ⟨fun key resolved =>
    Codec.decrypt_of_rejected decoded tagged unmarked resolved rejected, ?_⟩
  rintro store machine mode rfl found
  have refused := Codec.decrypt_of_rejected decoded tagged unmarked
    store.masterKey.resolve_cipherKeyText rejected
  have isText := Utf8.decode_ofAscii fun _ => Base64.Token.ascii_of_mem_spelling spelling
  exact tamperingReported_of_openNode found (openNode_of_decrypt_eq_error isText refused _)

/-- Payloads with a header that do not open are refused as tampered with, and whatever is sealed no
longer opens once another tag has been put at its end. -/
theorem refused_of_rejected
    (cipherKey : CipherKey) :
    (∀ payload, Envelope.isTagged payload = true → Codec.holdsPlaintext payload = false →
      (∀ plaintext, ¬ Codec.Authenticates cipherKey payload plaintext) →
      RefusedAsTampered cipherKey payload) ∧
    ∀ (codec : Codec) (plaintext key text : Bytes) (source rest : RandomSource),
      Key.resolve key = .ok cipherKey →
      codec.sealText plaintext key source = (.ok text, rest) →
      ∃ payload, Base64.Token.decode? text = some payload ∧
        ∀ tag, Envelope.retag payload tag ≠ payload →
          (∀ otherPlaintext,
            ¬ Codec.Authenticates cipherKey (Envelope.retag payload tag) otherPlaintext) ∧
          (Codec.holdsPlaintext (Envelope.retag payload tag) = false →
            RefusedAsTampered cipherKey (Envelope.retag payload tag)) := by
  constructor
  · intro payload tagged unmarked rejected
    exact refused_of_isTagged tagged unmarked rejected
  · intro codec plaintext key text source rest resolved sealing
    obtain ⟨-, sealingKey, nonce, resolvedKey, -, rfl⟩ :=
      Codec.exists_create_of_sealText_eq_ok sealing
    obtain rfl := Except.ok.inj (resolved.symm.trans resolvedKey)
    have decoded := Base64.Token.decode?_of_spelling
      (Envelope.twelve_le_length_toBytes (.create codec.algorithm cipherKey nonce plaintext))
      (Base64.Spelling.refl _)
    rw [Base64.Token.decode?_trim] at decoded
    refine ⟨_, decoded, fun tag different => ?_⟩
    have rejected := Codec.not_authenticates_retag different
    refine ⟨rejected, fun unmarked => refused_of_isTagged ?_ unmarked rejected⟩
    rw [Envelope.retag_toBytes_create]
    exact Envelope.isTagged_iff.mpr ⟨_, codec.algorithm, rfl, rfl⟩

/-! ## Samples -/

/-- A payload with a header that opens under no key that the samples use. -/
def blankPayload : Bytes :=
  Header.mark ++ [0x01] ++ List.replicate 40 0

theorem not_authenticates_blankPayload (plaintext : Bytes) :
    ¬ Codec.Authenticates (sample ['a'] ['b']).masterKey.cipherKey blankPayload plaintext := by
  have closed : (Envelope.parse blankPayload).map
      (·.decrypt? (sample ['a'] ['b']).masterKey.cipherKey) = .ok none := by
    decide +kernel
  rw [Codec.Authenticates, Envelope.exists_parse_and_decrypt?_iff, closed]
  simp

/-- The letter `x`, sealed under the key of the samples. -/
def letterPayload : Bytes :=
  (Envelope.create .xChaCha20Poly1305 (sample ['a'] ['b']).masterKey.cipherKey
    ⟨List.replicate 24 0, rfl⟩ [0x78]).toBytes

theorem refused_of_rejected_samples :
    (Codec.decrypt (Encoding.toBase64 blankPayload)
        (sample ['a'] ['b']).masterKey.cipherKeyText = .error .authenticationFailure ∧
      (sample ['a'] ['b']).TamperingReported
        (machineHolding (Encoding.toBase64 blankPayload))) ∧
    RefusedAsTampered (sample ['a'] ['b']).masterKey.cipherKey
      (Envelope.retag letterPayload ⟨List.replicate 16 0, rfl⟩) := by
  obtain ⟨refusedAll, retagged⟩ := refused_of_rejected (sample ['a'] ['b']).masterKey.cipherKey
  have resolved := (sample ['a'] ['b']).masterKey.resolve_cipherKeyText
  refine ⟨?_, ?_⟩
  · have refused := refusedAll blankPayload (by decide +kernel) (by decide +kernel)
      not_authenticates_blankPayload _ (Base64.Spelling.refl _)
    exact ⟨refused.1 _ resolved, refused.2 (sample ['a'] ['b']) _ 0o600 rfl (by decide +kernel)⟩
  · have sealing : ({} : Codec).sealText [0x78] (sample ['a'] ['b']).masterKey.cipherKeyText
        [.bytes (List.replicate 24 0)] = (.ok (Encoding.toBase64 letterPayload), [.bytes []]) :=
      Codec.sealText_of_draw {} (List.cons_ne_nil _ _) resolved rfl
    obtain ⟨payload, decoded, refused⟩ := retagged _ _ _ _ _ _ resolved sealing
    have known : Base64.Token.decode? (Encoding.toBase64 letterPayload) = some letterPayload := by
      decide +kernel
    obtain rfl := Option.some.inj (known.symm.trans decoded)
    exact (refused _ (by decide +kernel)).2 (by decide +kernel)

/-- A machine with the payload in the file of a sample store, and a directory in place of the
lock. -/
def blockedMachine : Machine where
  files := FileSystem.insert ["a_b.secret.lock".toList, "s".toList] (.directory 0o755)
    (machineHolding (Encoding.toBase64 blankPayload)).files

/-- A store whose lock is a directory does not say that its file has been tampered with. -/
theorem get_blankPayload_of_directory_lock :
    Envelope.isTagged blankPayload = true ∧
      Codec.holdsPlaintext blankPayload = false ∧
      (∀ plaintext, ¬ Codec.Authenticates (sample ['a'] ['b']).masterKey.cipherKey blankPayload
        plaintext) ∧
      ∃ machine : Machine,
        machine.files.status (sample ['a'] ['b']).secretPath =
            .ok (.file 0o600 (Encoding.toBase64 blankPayload)) ∧
          ((sample ['a'] ['b']).get machine).1 =
            .error (.file (sample ['a'] ['b']).secretPath .isDirectory) := by
  exact ⟨by decide +kernel, by decide +kernel, not_authenticates_blankPayload, blockedMachine,
    by decide +kernel, by decide +kernel⟩

end FileStore
end Lockbox
