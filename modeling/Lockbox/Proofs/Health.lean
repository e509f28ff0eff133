import Lockbox.Health
import Lockbox.Proofs.Codec.Idempotence
import Lockbox.Proofs.Codec.KeyGeneration
import Lockbox.Proofs.Codec.Unsealed
import Lockbox.Proofs.Frames
import Lockbox.Proofs.Store.Confinement
import Lockbox.Proofs.Store.Memory

/-!
# Health checks raise no false alarm

The trial of a codec succeeds whenever a key and a nonce can be drawn, unless the marker of
plaintext key material occurs in the envelope (`run_checkCodec`). The trial of a store with nothing
in its way succeeds and leaves no secret behind (`run_checkStore_of_usable`,
`run_checkStore_memory`). However it ends, it touches no more files than the operations of the
store do (`ensures_checkStore`).
-/

namespace Lockbox

open FileSystem

/-! ## Codecs -/

theorem Envelope.isTagged_create
    (algorithm : Algorithm)
    (cipherKey : CipherKey)
    (nonce : FixedBytes algorithm.nonceLength)
    (plaintext : Bytes) :
    isTagged (create algorithm cipherKey nonce plaintext).toBytes = true :=
  isTagged_iff.mpr ⟨_, algorithm, rfl, rfl⟩

/-- Every codec recognises the text of a sealed payload. -/
theorem Codec.isEncrypted_toBase64_create
    (codec : Codec)
    (algorithm : Algorithm)
    (cipherKey : CipherKey)
    (nonce : FixedBytes algorithm.nonceLength)
    (plaintext : Bytes) :
    codec.isEncrypted
      (Encoding.toBase64 (Envelope.create algorithm cipherKey nonce plaintext).toBytes) = true := by
  have long := Envelope.twelve_le_length_toBytes (.create algorithm cipherKey nonce plaintext)
  apply isEncrypted_of_isTagged (Base64.Token.decode?_of_spelling long (Base64.Spelling.refl _))
  exact Envelope.isTagged_create algorithm cipherKey nonce plaintext

namespace Health

variable {codec : Codec} {source rest final : RandomSource} {count : Nat} {bytes : Bytes}
  {cipherKey : CipherKey}

/-- The sample is no payload for any codec. -/
theorem isEncrypted_sample (codec : Codec) : codec.isEncrypted sample = false := by
  obtain ⟨algorithm, legacyDetection⟩ := codec
  cases algorithm <;> cases legacyDetection <;> decide +kernel

theorem unwrap_sample : Base64.Token.unwrap sample = sample := by
  decide +kernel

/-- The key that is drawn for the trial of a codec can be used. -/
theorem run_generate
    (pools : Key.LeastPools 32 source count bytes rest)
    (isKey : cipherKey.val = ((Key.accepted bytes).take 32).map Key.letter) :
    Key.generate source = (.ok cipherKey.val, rest) ∧
      Key.resolve cipherKey.val = .ok cipherKey := by
  have full : ((Key.accepted bytes).take 32).length = 32 := List.length_take_of_le pools.enough
  constructor
  · have gathered := Key.gather_eq_some_iff.mpr ⟨count, bytes, pools, isKey⟩
    have valid : Key.isValid cipherKey.val = true := by
      rw [isKey]
      exact Key.isValid_map_letter_iff.mpr full
    simp only [Key.generate, Key.generateOfLength, gathered, valid, if_true]
  · obtain ⟨other, same, resolved⟩ := Key.resolve_map_letter full
    rw [← isKey] at same resolved
    rw [resolved, Subtype.ext same]

/-- Once a key and a nonce are drawn, the trial of a codec succeeds, unless the marker occurs in
the envelope. -/
theorem run_checkCodec
    {nonce : FixedBytes codec.algorithm.nonceLength}
    (pools : Key.LeastPools 32 source count bytes rest)
    (isKey : cipherKey.val = ((Key.accepted bytes).take 32).map Key.letter)
    (drawn : rest.draw codec.algorithm.nonceLength = (some nonce, final)) :
    checkCodec codec source =
      (if Codec.holdsPlaintext (Envelope.create codec.algorithm cipherKey nonce sample).toBytes
        then .error .codecUnhealthy else .ok (), final) := by
  obtain ⟨generated, resolved⟩ := run_generate pools isKey
  have encrypted :=
    Codec.encrypt_of_draw codec (by decide) (isEncrypted_sample codec) resolved drawn
  rw [unwrap_sample] at encrypted
  have adapted {α : Type} {drawing : Drawing CodecError α} {value : α} {before after : RandomSource}
      (succeeded : drawing before = (.ok value, after)) :
      ExceptT.adapt Failure.codec drawing before = (.ok value, after) := by
    rw [run_adapt, succeeded]
    rfl
  rw [checkCodec, run_bind_of_ok (adapted generated), run_bind_of_ok (adapted encrypted)]
  have recognised := codec.isEncrypted_toBase64_create codec.algorithm cipherKey nonce sample
  have spelling := Base64.Spelling.refl
    (Encoding.toBase64 (Envelope.create codec.algorithm cipherKey nonce sample).toBytes)
  split
  next marked =>
    have long := Envelope.twelve_le_length_toBytes
      (.create codec.algorithm cipherKey nonce sample)
    have decrypted := Codec.decrypt_of_holdsPlaintext
      (Base64.Token.decode?_of_spelling long spelling) marked cipherKey.val
    have other : (Envelope.create codec.algorithm cipherKey nonce sample).toBytes ≠ sample := by
      intro same
      have tagged := Envelope.isTagged_create codec.algorithm cipherKey nonce sample
      rw [same] at tagged
      exact absurd tagged (by decide)
    simp only [decrypted, recognised, Codec.passThrough, beq_eq_false_iff_ne.mpr other]
    rfl
  next unmarked =>
    have nonempty : sample ≠ [] := by decide
    have decrypted := Codec.decrypt_spelling_create nonempty resolved
      (Bool.eq_false_iff.mpr unmarked) spelling
    simp only [decrypted, recognised, beq_self_eq_true]
    rfl

end Health

/-! ## File stores -/

namespace FileStore

variable {store : FileStore} {machine : Machine} {place : Location}

/-- What a store may touch does not move, so one use of it may follow another. -/
instance isPreorder_mayTouch (store : FileStore) :
    IsPreorder FileSystem fun before after => ChangesOnly (store.MayTouch before) before after where
  refl := fun files => ChangesOnly.refl files
  trans := by
    intro before between after first second
    rw [mayTouch_of_changes first] at second
    exact first.trans second

theorem ensures_put (store : FileStore) (secret : Text) :
    (store.put secret).Ensures
      fun before after => ChangesOnly (store.MayTouch before) before after := by
  intro machine
  obtain ⟨outcome, random, changed, ran, changes⟩ := store.run_put_changes secret machine
  rw [ran]
  exact changes

theorem ensures_get (store : FileStore) :
    store.get.Ensures fun before after => ChangesOnly (store.MayTouch before) before after := by
  intro machine
  obtain ⟨changed, ran, spares⟩ := store.run_get machine
  rw [ran]
  exact changes_of_spares_all spares

theorem ensures_delete (store : FileStore) :
    store.delete.Ensures fun before after => ChangesOnly (store.MayTouch before) before after := by
  intro machine
  obtain ⟨outcome, changed, ran, changes⟩ := store.run_delete_changes machine
  rw [ran]
  exact changes

end FileStore

namespace Health

/-- The trial of a store keeps to what the operations of the store keep to. -/
theorem ensures_checkStore
    {relation : FileSystem → FileSystem → Prop}
    {store : Store}
    [IsPreorder FileSystem relation]
    (ensuresPut : (store.put trialSecret).Ensures relation)
    (ensuresGet : store.get.Ensures relation)
    (ensuresDelete : store.delete.Ensures relation) :
    (checkStore store).Ensures relation := by
  refine .bind (ensuresPut.mapError _) ?_
  intro _
  refine .bind (ensuresGet.mapError _) ?_
  intro secret
  refine .bind (ensuresDelete.mapError _) ?_
  intro _
  split
  next => exact .pure _
  next => exact .throw _

/-- The trial of a store that has got its secret back ends as deleting the secret does. -/
theorem run_checkStore
    {store : Store}
    {stored read after : Machine}
    (put : store.put trialSecret machine = (.ok (), stored))
    (got : store.get stored = (.ok trialSecret, read))
    (deleted : store.delete read = (.ok (), after)) :
    checkStore store machine = (.ok (), after) := by
  rw [checkStore, run_bind_of_ok (Action.run_mapError_of_ok put),
    run_bind_of_ok (Action.run_mapError_of_ok got),
    run_bind_of_ok (Action.run_mapError_of_ok deleted), if_pos rfl]
  rfl

section FileStores

variable {store : FileStore} {machine : Machine} {place : Location}

/-- However the trial of a file store ends, it touches the secret of the store and its lock
alone. -/
theorem changes_checkStore (store : FileStore) :
    (checkStore (.file store)).Ensures
      fun before after => ChangesOnly (store.MayTouch before) before after := by
  apply ensures_checkStore
  · exact store.ensures_put trialSecret
  · exact store.ensures_get
  · exact store.ensures_delete

/-- The trial of a usable file store succeeds, and there is no secret after it. -/
theorem run_checkStore_of_usable
    {nonce : FixedBytes store.codec.algorithm.nonceLength}
    {rest : RandomSource}
    (usable : store.Usable machine.files place)
    (drawn : machine.random.draw store.codec.algorithm.nonceLength = (some nonce, rest))
    (unmarked : Codec.holdsPlaintext (Envelope.create store.codec.algorithm
      store.masterKey.cipherKey nonce (Utf8.encode trialSecret)).toBytes = false) :
    ∃ after,
      checkStore (.file store) machine = (.ok (), after) ∧
      (store.get after).1 = .error (.notFound store.secretPath) := by
  have nonempty : trialSecret ≠ [] := by decide
  obtain ⟨stored, put, putChanges, found⟩ :=
    FileStore.run_put_of_usable usable nonempty drawn
  have usableStored := usable.of_changes putChanges
  obtain ⟨read, got, getSpares⟩ := store.run_get { machine with random := rest, files := stored }
  have opened : store.getOutcome stored = .ok trialSecret := by
    rw [usableStored.getOutcome, found]
    exact FileStore.openNode_of_sealed rfl nonempty unmarked _
  rw [opened] at got
  have usableRead :
      store.Usable ({ machine with random := rest, files := read } : Machine).files place :=
    usableStored.of_changes (FileStore.changes_of_spares_all getSpares)
  obtain ⟨changed, deleted, deleteChanges, gone⟩ := FileStore.run_delete_of_usable usableRead
  refine ⟨_, run_checkStore put got deleted, ?_⟩
  obtain ⟨final, gotAfter, -⟩ :=
    store.run_get { machine with random := rest, files := changed }
  rw [gotAfter, (usableRead.of_changes deleteChanges).getOutcome, gone]

end FileStores

/-! ## Memory stores -/

section MemoryStores

variable {store : MemoryStore} {machine : Machine}

/-- However the trial of a memory store ends, it leaves the files alone. -/
theorem files_checkStore (store : MemoryStore) :
    (checkStore (.memory store)).Ensures fun before after => after = before := by
  have : IsPreorder FileSystem fun before after => after = before :=
    { refl := fun _ => rfl, trans := fun _ _ _ first second => second.trans first }
  apply ensures_checkStore
  · exact .of_files_eq fun _ => rfl
  · refine .bind (.observe _) ?_
    intro kept
    split
    next => exact .throw _
    next =>
      split
      next => exact .pure _
      next => exact .throw _
  · exact .of_files_eq fun _ => rfl

/-- The trial of a memory store succeeds, and there is no secret after it. -/
theorem run_checkStore_memory
    (there : store.cell < machine.cells.length) :
    ∃ after,
      checkStore (.memory store) machine = (.ok (), after) ∧
      (store.get after).1 = .error (.notFound store.identity.fileName) := by
  have nonempty : trialSecret ≠ [] := by decide
  have put : store.put trialSecret machine = _ := MemoryStore.run_put_of_ne_nil nonempty
  have stored : store.Keeps { machine with
      cells := machine.cells.set store.cell (some (MemoryStore.mask (Utf8.encode trialSecret))) }
      (some trialSecret) := List.getElem?_set_self there
  have deleted := MemoryStore.keeps_of_set stored none
  have ran : checkStore (.memory store) machine = _ :=
    run_checkStore put (MemoryStore.run_get_of_some stored) rfl
  exact ⟨_, ran, congrArg Prod.fst (MemoryStore.run_get_of_none deleted)⟩

end MemoryStores

/-! ## Both trials -/

/-- Health checks raise no false alarm and leave nothing behind.

The trial of a codec succeeds when a key and a nonce can be drawn, and the trial of a file store
when nothing is in its way and a nonce can be drawn, unless the marker occurs in the envelope; the
trial of a memory store always does. There is no secret after the trial of a store. However it ends,
the secrets in files with other names and all key files are as before. -/
theorem checks_sound :
    (∀ (codec : Codec) (source rest final : RandomSource) (count : Nat) (bytes : Bytes)
        (cipherKey : CipherKey) (nonce : FixedBytes codec.algorithm.nonceLength),
      Key.LeastPools 32 source count bytes rest →
      cipherKey.val = ((Key.accepted bytes).take 32).map Key.letter →
      rest.draw codec.algorithm.nonceLength = (some nonce, final) →
      Codec.holdsPlaintext
        (Envelope.create codec.algorithm cipherKey nonce sample).toBytes = false →
      checkCodec codec source = (.ok (), final)) ∧
    (∀ (store : FileStore) (machine : Machine) (place : Location)
        (nonce : FixedBytes store.codec.algorithm.nonceLength) (rest : RandomSource),
      store.Usable machine.files place →
      machine.random.draw store.codec.algorithm.nonceLength = (some nonce, rest) →
      Codec.holdsPlaintext (Envelope.create store.codec.algorithm store.masterKey.cipherKey nonce
        (Utf8.encode trialSecret)).toBytes = false →
      ∃ after,
        checkStore (.file store) machine = (.ok (), after) ∧
        (store.get after).1 = .error (.notFound store.secretPath)) ∧
    (∀ (store : MemoryStore) (machine : Machine),
      store.cell < machine.cells.length →
      ∃ after,
        checkStore (.memory store) machine = (.ok (), after) ∧
        (store.get after).1 = .error (.notFound store.identity.fileName)) ∧
    ∀ (store : Store) (machine : Machine) (place : Location),
      (∀ other : Identity, other.fileName ≠ store.identity.fileName →
        (checkStore store machine).2.files.find? (other.fileName :: place) =
          machine.files.find? (other.fileName :: place)) ∧
      (checkStore store machine).2.files.find? (MasterKey.fileName :: place) =
        machine.files.find? (MasterKey.fileName :: place) := by
  refine ⟨?_, ?_, ?_, ?_⟩
  · intro codec source rest final count bytes cipherKey nonce pools isKey drawn unmarked
    rw [run_checkCodec pools isKey drawn, unmarked]
    rfl
  · intro store machine place nonce rest usable drawn unmarked
    exact run_checkStore_of_usable usable drawn unmarked
  · intro store machine there
    exact run_checkStore_memory there
  · intro store machine place
    cases store with
    | file store =>
        have changes := changes_checkStore store machine
        constructor
        · intro other different
          apply changes.elsewhere
          exact FileStore.not_mayTouch different (other.fileName_ne_lockName _)
        · exact changes.elsewhere _ (FileStore.not_mayTouch_keyFile place)
    | memory store =>
        rw [files_checkStore store machine]
        exact ⟨fun _ _ => rfl, rfl⟩

/-- Bytes for one key and one nonce. -/
def sampleSource : RandomSource :=
  [.bytes (List.replicate 64 0x01), .bytes (List.replicate 24 0x00)]

/-- A directory with a key file and the secret of one identity, one nonce and one cell. -/
def sampleMachine : Machine where
  files := {
    entries := [(["s".toList], .directory 0o755),
      (["master.key".toList, "s".toList], .file 0o600 [1]),
      (["x_y.secret".toList, "s".toList], .file 0o600 [2])],
    workingDirectory := [] }
  random := [.bytes (List.replicate 24 0)]
  cells := [none]

/-- The trials of a codec that goes by length as well, of a file store beside a key file and the
secret of another identity, and of a memory store. -/
theorem checks_sound_samples :
    checkCodec { legacyDetection := true } sampleSource = (.ok (), [.bytes []]) ∧
    (∃ after,
      checkStore (.file (FileStore.sample ['a'] ['b'])) sampleMachine = (.ok (), after) ∧
      after.files.find? ["x_y.secret".toList, "s".toList] = some (.file 0o600 [2]) ∧
      after.files.find? ["master.key".toList, "s".toList] = some (.file 0o600 [1])) ∧
    (checkStore (.memory ⟨Identity.ofLabels ['a'] ['b'], 0⟩) sampleMachine).1 = .ok () := by
  obtain ⟨codecs, fileStores, memoryStores, apart⟩ := checks_sound
  have pools : Key.LeastPools 32 sampleSource 1 (List.replicate 64 0x01)
      [.bytes [], .bytes (List.replicate 24 0x00)] := by
    refine ⟨by decide +kernel, by decide +kernel, ?_⟩
    intro fewer less others final drawn
    obtain rfl : fewer = 0 := by omega
    obtain ⟨rfl, -⟩ := RandomSource.drawPools_zero_eq_some_iff.mp drawn
    decide
  have healthy := codecs { legacyDetection := true } sampleSource _ [.bytes []] 1 _
    ⟨List.replicate 32 0x62, rfl⟩ ⟨List.replicate 24 0x00, rfl⟩ pools (by decide +kernel)
    (by decide +kernel) (by decide +kernel)
  obtain ⟨after, ran, -⟩ := fileStores (FileStore.sample ['a'] ['b']) sampleMachine ["s".toList]
    ⟨List.replicate 24 0x00, rfl⟩ [.bytes []] (by decide +kernel) (by decide +kernel)
    (by decide +kernel)
  obtain ⟨secrets, keyFile⟩ :=
    apart (.file (FileStore.sample ['a'] ['b'])) sampleMachine ["s".toList]
  have secret := secrets (Identity.ofLabels ['x'] ['y']) (by decide +kernel)
  rw [ran] at secret keyFile
  obtain ⟨_, ranMemory, -⟩ :=
    memoryStores ⟨Identity.ofLabels ['a'] ['b'], 0⟩ sampleMachine (by decide)
  exact ⟨healthy, ⟨after, ran, secret, keyFile⟩, congrArg Prod.fst ranMemory⟩

end Health
end Lockbox
