import Lockbox.Proofs.Codec.RawPayloads
import Lockbox.Proofs.Store.Authenticity

/-!
# Payloads of the older form

A payload of the older form is a nonce and what was sealed under it, without a header. Unless its
bytes happen to begin with the format mark or to hold the marker of plaintext key material, every
spelling of it is still opened, by decryption and by a store that finds it in its file.
-/

namespace Lockbox

namespace Codec

/-- A payload of the older form is a nonce and what was sealed under it. It can be taken for nothing
else unless it begins with the format mark or holds the marker of plaintext key material. -/
structure IsOlderForm (cipherKey : CipherKey) (nonce : FixedBytes 24) (plaintext payload : Bytes) :
    Prop where
  payload_eq : payload = nonce.val ++ XChaCha20Poly1305.aead.encrypt cipherKey nonce.val plaintext
  nonempty : plaintext ≠ []
  unheaded : ¬ Header.mark <+: payload
  unmarked : ¬ plaintextMarker <:+: payload

section OlderForm

variable {cipherKey : CipherKey} {nonce : FixedBytes 24} {plaintext payload : Bytes}

/-- A payload of the older form is an envelope without a header. -/
theorem IsOlderForm.eq_toBytes
    (older : IsOlderForm cipherKey nonce plaintext payload) :
    payload = (Envelope.behind .headerless cipherKey nonce plaintext).toBytes :=
  older.payload_eq

/-- A payload of the older form is taken for what it is. -/
theorem IsOlderForm.isUnmistakable
    (older : IsOlderForm cipherKey nonce plaintext payload) :
    (Envelope.behind .headerless cipherKey nonce plaintext).IsUnmistakable := by
  intro _
  rw [← older.eq_toBytes, Option.eq_none_iff_forall_ne_some]
  intro rest marked
  exact older.unheaded ⟨rest, (Header.afterMark?_eq_some_iff.mp marked).symm⟩

/-- Every spelling of a payload of the older form opens under the key that it was made with. -/
theorem IsOlderForm.decrypt_spelling
    {key text : Bytes}
    (older : IsOlderForm cipherKey nonce plaintext payload)
    (resolved : Key.resolve key = .ok cipherKey)
    (spelling : Base64.Spelling (Encoding.toBase64 payload) text) :
    decrypt text key = .ok { plaintext := plaintext, encoded := Base64.Token.wrap plaintext } := by
  have unmarked := older.unmarked
  rw [← holdsPlaintext_iff, Bool.not_eq_true, older.eq_toBytes] at unmarked
  rw [older.eq_toBytes] at spelling
  exact decrypt_spelling_behind older.nonempty resolved older.isUnmistakable unmarked spelling

end OlderForm

end Codec

namespace FileStore

open FileSystem

/-- A store gives the text that decryption finds in its file. -/
theorem openNode_of_decrypt_eq_ok
    {store : FileStore}
    {content : Bytes}
    {text secret : Text}
    {opened : Opened}
    (decoded : Utf8.decode content = .ok text)
    (decrypted : Codec.decrypt content store.masterKey.cipherKeyText = .ok opened)
    (isText : Utf8.encode secret = opened.plaintext)
    (mode : Nat) :
    store.openNode (.file mode content) = .ok secret := by
  simp only [openNode, decoded, openSecret, Utf8.encode_of_decode_eq_ok decoded, decrypted,
    ← isText, Utf8.decode_encode]

/-- Every spelling of a payload of the older form is opened under the key that it was made with, and
a store that derives this key and has the spelling in its file gives the text that was sealed,
unless its lock cannot be taken. -/
theorem opens_olderPayload
    {cipherKey : CipherKey}
    {nonce : FixedBytes 24}
    {plaintext payload text : Bytes}
    (older : Codec.IsOlderForm cipherKey nonce plaintext payload)
    (spelling : Base64.Spelling (Encoding.toBase64 payload) text) :
    (∀ key, Key.resolve key = .ok cipherKey →
      ∃ opened, Codec.decrypt text key = .ok opened ∧ opened.plaintext = plaintext) ∧
    ∀ (store : FileStore) (machine : Machine) (mode : Nat) (secret : Text),
      store.masterKey.cipherKey = cipherKey →
      machine.files.status store.secretPath = .ok (.file mode text) →
      Utf8.encode secret = plaintext →
      (store.get machine).1 =
        match (PrivateFile.lock store.secretPath machine).1 with
        | .error failure => .error (.file store.secretPath failure)
        | .ok () => .ok secret := by
  refine ⟨fun key resolved => ⟨_, older.decrypt_spelling resolved spelling, rfl⟩, ?_⟩
  rintro store machine mode secret rfl found isText
  have decoded := Utf8.decode_ofAscii fun _ => Base64.Token.ascii_of_mem_spelling spelling
  have decrypted := older.decrypt_spelling store.masterKey.resolve_cipherKeyText spelling
  have got := get_of_status found
  rw [openNode_of_decrypt_eq_ok decoded decrypted isText] at got
  exact got

/-! ## Samples -/

/-- A greeting in the older form. -/
def olderGreeting : Bytes :=
  List.replicate 24 0xFF ++
    [0x8A, 0xCA, 0x9B, 0x64, 0xEE, 0x52, 0x11, 0xFB, 0x35, 0xF4, 0x0A, 0x9F, 0x2A, 0x90, 0x14, 0x66,
      0x44, 0xE9]

/-- The greeting was sealed under the key of the samples. -/
theorem isOlderForm_olderGreeting :
    Codec.IsOlderForm (sample ['a'] ['b']).masterKey.cipherKey ⟨List.replicate 24 0xFF, rfl⟩
      [0x68, 0x69] olderGreeting where
  payload_eq := by decide +kernel
  nonempty := by decide
  unheaded := by decide
  unmarked := by
    rw [← Codec.holdsPlaintext_iff]
    decide

/-- The greeting in the standard alphabet with two marks and white space around it. -/
def olderGreetingText : Bytes :=
  [0x20] ++ (Base64.Alphabet.standard.respell (Encoding.toBase64 olderGreeting) ++
    List.replicate 2 Base64.padMark) ++ [0x0A]

theorem spelling_olderGreetingText :
    Base64.Spelling (Encoding.toBase64 olderGreeting) olderGreetingText :=
  .intro .standard 2 (by decide) [0x20] [0x0A] (by simp [Bytes.isBlank]) (by simp [Bytes.isBlank])

theorem opens_olderPayload_greeting :
    (∃ opened, Codec.decrypt olderGreetingText (sample ['a'] ['b']).masterKey.cipherKeyText =
        .ok opened ∧ opened.plaintext = [0x68, 0x69]) ∧
      ((sample ['a'] ['b']).get (machineHolding olderGreetingText)).1 = .ok ['h', 'i'] := by
  obtain ⟨decrypted, retrieved⟩ :=
    opens_olderPayload isOlderForm_olderGreeting spelling_olderGreetingText
  refine ⟨decrypted _ (sample ['a'] ['b']).masterKey.resolve_cipherKeyText, ?_⟩
  have locked : (PrivateFile.lock (sample ['a'] ['b']).secretPath
      (machineHolding olderGreetingText)).1 = .ok () := by
    decide
  have found := retrieved (sample ['a'] ['b']) (machineHolding olderGreetingText) 0o600 ['h', 'i']
    rfl (by decide) (by decide)
  rwa [locked] at found

/-- A store whose lock is a directory does not give the greeting. -/
theorem get_olderGreeting_of_directory_lock :
    Codec.IsOlderForm (sample ['a'] ['b']).masterKey.cipherKey ⟨List.replicate 24 0xFF, rfl⟩
        [0x68, 0x69] olderGreeting ∧
      ∃ machine : Machine,
        machine.files.status (sample ['a'] ['b']).secretPath =
            .ok (.file 0o600 (Encoding.toBase64 olderGreeting)) ∧
          ((sample ['a'] ['b']).get machine).1 =
            .error (.file (sample ['a'] ['b']).secretPath .isDirectory) := by
  refine ⟨isOlderForm_olderGreeting, {
    files := FileSystem.insert ["a_b.secret.lock".toList, "s".toList] (.directory 0o755)
      (machineHolding (Encoding.toBase64 olderGreeting)).files }, ?_, ?_⟩
  · decide
  · decide

end FileStore
end Lockbox
