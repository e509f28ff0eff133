import Lockbox.Proofs.Codec.Keys
import Lockbox.Proofs.Codec.RoundTrip
import Lockbox.Proofs.Store.Steps

/-!
# Stores with nothing in their way

Where a directory can be reached, names fit and no directory stands in the place of a file, every
operation of a store does what it is for. These are the equations of that case.
-/

namespace Lockbox
namespace FileStore

open FileSystem

/-- A store with nothing in its way: its directory is at the given place, its paths and names fit,
and no directory stands in the place of its secret or of its lock. -/
structure Usable (store : FileStore) (files : FileSystem) (place : Location) : Prop where
  reached : files.reach store.directory = .ok place
  pathFits : checkPath (PrivateFile.lockPath store.secretPath) = .ok ()
  nameFits : Text.byteLength (PrivateFile.lockName store.identity.fileName) ≤ maximumName
  secretFree : files.requireDirectory (store.identity.fileName :: place) ≠ .ok ()
  lockFree :
    files.requireDirectory (PrivateFile.lockName store.identity.fileName :: place) ≠ .ok ()

instance (store : FileStore) (files : FileSystem) (place : Location) :
    Decidable (store.Usable files place) :=
  decidable_of_iff
    (files.reach store.directory = .ok place ∧
      checkPath (PrivateFile.lockPath store.secretPath) = .ok () ∧
      Text.byteLength (PrivateFile.lockName store.identity.fileName) ≤ maximumName ∧
      files.requireDirectory (store.identity.fileName :: place) ≠ .ok () ∧
      files.requireDirectory (PrivateFile.lockName store.identity.fileName :: place) ≠ .ok ())
    ⟨fun ⟨reached, pathFits, nameFits, secretFree, lockFree⟩ =>
        ⟨reached, pathFits, nameFits, secretFree, lockFree⟩,
      fun usable => ⟨usable.reached, usable.pathFits, usable.nameFits, usable.secretFree,
        usable.lockFree⟩⟩

namespace Usable

variable {store : FileStore} {files after : FileSystem} {place : Location}

/-- Changes of files do not make a store unusable. -/
theorem of_changes
    {touched : Location → Prop}
    (usable : store.Usable files place)
    (changes : ChangesOnly touched files after) :
    store.Usable after place where
  reached := changes.reach_eq_ok usable.reached
  pathFits := usable.pathFits
  nameFits := usable.nameFits
  secretFree := by rw [Ne, changes.directories]; exact usable.secretFree
  lockFree := by rw [Ne, changes.directories]; exact usable.lockFree

theorem locate
    (usable : store.Usable files place) :
    files.locate store.secretPath = .ok (store.identity.fileName :: place) := by
  have plain := store.identity.isPlain_fileName
  apply locate_join_of_reach plain _ usable.reached
  · have short := usable.nameFits
    rw [PrivateFile.lockName, byteLength_append] at short
    omega
  · exact checkPath_of_append (Path.join_ne_nil store.directory plain) usable.pathFits

theorem isLock
    (usable : store.Usable files place) :
    PrivateFile.IsLock files store.secretPath
      (PrivateFile.lockName store.identity.fileName :: place) := by
  have plain := store.identity.isPlain_fileName
  have fits := usable.pathFits
  rw [secretPath, PrivateFile.lockPath_join _ plain.noSlash] at fits
  rw [PrivateFile.IsLock, secretPath, PrivateFile.lockPath_join _ plain.noSlash]
  exact locate_join_of_reach (PrivateFile.isPlain_lockName plain) fits usable.reached
    usable.nameFits

theorem lockOutcome
    (usable : store.Usable files place) :
    PrivateFile.lockOutcome files store.secretPath = .ok () :=
  PrivateFile.lockOutcome_eq_ok_iff.mpr ⟨_, usable.isLock, usable.lockFree⟩

theorem status
    (usable : store.Usable files place) :
    files.status store.secretPath =
      match files.find? (store.identity.fileName :: place) with
      | none => .error .notFound
      | some node => .ok node := by
  cases found : files.find? (store.identity.fileName :: place) with
  | none => simp only [FileSystem.status, usable.locate, found]
  | some node => simp only [FileSystem.status, usable.locate, found]

/-- What is in the place of the secret decides what reading it gives. -/
theorem getOutcome
    (usable : store.Usable files place) :
    store.getOutcome files =
      match files.find? (store.identity.fileName :: place) with
      | none => .error (.notFound store.secretPath)
      | some node => store.openNode node := by
  rw [FileStore.getOutcome, usable.status, usable.lockOutcome]
  cases files.find? (store.identity.fileName :: place) <;> rfl

end Usable

section Operations

variable {store : FileStore} {machine : Machine} {place : Location}

/-- The lock of a usable store is taken without touching the secret. -/
theorem run_lock_of_usable
    (usable : store.Usable machine.files place) :
    ∃ locked,
      PrivateFile.lock store.secretPath machine = (.ok (), { machine with files := locked }) ∧
      ChangesOnly (store.MayTouch machine.files) machine.files locked ∧
      locked.find? (store.identity.fileName :: place) =
        machine.files.find? (store.identity.fileName :: place) := by
  obtain ⟨locked, ran, spares⟩ := PrivateFile.run_lock store.secretPath machine
  have changes := spares.lockChanges
  rw [usable.lockOutcome] at ran
  refine ⟨locked, ran, changes.mono fun _ => mayTouch_of_isLock, ?_⟩
  exact changes.elsewhere _ (not_isLock_of_locate usable.locate)

theorem run_save_of_usable
    (usable : store.Usable machine.files place)
    (payload : Bytes) :
    ∃ changed,
      store.save payload machine = (.ok (), { machine with files := changed }) ∧
      ChangesOnly (store.MayTouch machine.files) machine.files changed ∧
      changed.find? (store.identity.fileName :: place) =
        some (.file PrivateFile.mode payload) := by
  obtain ⟨locked, ran, changes, -⟩ := run_lock_of_usable usable
  have stillUsable := usable.of_changes changes
  have replaced := replace_of_noDirectory stillUsable.locate stillUsable.secretFree
    PrivateFile.mode payload
  have saved := run_save_of_locked ran stillUsable.lockOutcome payload
  rw [replaced] at saved
  obtain ⟨outcome, changed, ranAgain, saves⟩ := run_save store payload machine
  rw [saved] at ranAgain
  obtain rfl := congrArg (fun run => run.2.files) ranAgain
  exact ⟨_, saved, saves.changes, find?_insert_self _ _ _⟩

/-- Without a nonce nothing is stored. -/
theorem run_put_of_noNonce
    {secret : Text}
    {rest : RandomSource}
    (nonempty : secret ≠ [])
    (failed : machine.random.draw store.codec.algorithm.nonceLength = (none, rest)) :
    store.put secret machine =
      (.error (.encryption .noRandomness), { machine with random := rest }) := by
  apply run_put_of_refused nonempty
  rw [Codec.sealText_eq store.codec (Utf8.encode_ne_nil nonempty)
    store.masterKey.resolve_cipherKeyText, failed]

/-- With a nonce the sealed secret of a usable store takes the place of the one before. -/
theorem run_put_of_usable
    {secret : Text}
    {nonce : FixedBytes store.codec.algorithm.nonceLength}
    {rest : RandomSource}
    (usable : store.Usable machine.files place)
    (nonempty : secret ≠ [])
    (drawn : machine.random.draw store.codec.algorithm.nonceLength = (some nonce, rest)) :
    ∃ changed,
      store.put secret machine = (.ok (), { machine with random := rest, files := changed }) ∧
      ChangesOnly (store.MayTouch machine.files) machine.files changed ∧
      changed.find? (store.identity.fileName :: place) =
        some (.file PrivateFile.mode (Encoding.toBase64 (Envelope.create store.codec.algorithm
          store.masterKey.cipherKey nonce (Utf8.encode secret)).toBytes)) := by
  have sealing := Codec.sealText_of_draw store.codec (Utf8.encode_ne_nil nonempty)
    store.masterKey.resolve_cipherKeyText drawn
  have stillUsable : store.Usable ({ machine with random := rest } : Machine).files place := usable
  obtain ⟨changed, saved, changes, found⟩ := run_save_of_usable stillUsable
    (Encoding.toBase64 (Envelope.create store.codec.algorithm store.masterKey.cipherKey nonce
      (Utf8.encode secret)).toBytes)
  exact ⟨changed, (run_put_of_sealed nonempty sealing).trans saved, changes, found⟩

/-- A usable store has no secret after it has been deleted, whether there was one or not. -/
theorem run_delete_of_usable
    (usable : store.Usable machine.files place) :
    ∃ changed,
      store.delete machine = (.ok (), { machine with files := changed }) ∧
      ChangesOnly (store.MayTouch machine.files) machine.files changed ∧
      changed.find? (store.identity.fileName :: place) = none := by
  have status := usable.status
  cases found : machine.files.find? (store.identity.fileName :: place) with
  | none =>
      rw [found] at status
      have missing : machine.files.pathExists store.secretPath = false := by
        rw [pathExists, status]
      exact ⟨machine.files, run_delete_of_missing missing, .refl _, found⟩
  | some node =>
      rw [found] at status
      have there : machine.files.pathExists store.secretPath = true := by
        rw [pathExists, status]
      obtain ⟨mode, content, rfl⟩ : ∃ mode content, node = .file mode content := by
        cases node with
        | file mode content => exact ⟨mode, content, rfl⟩
        | directory mode =>
            exact absurd (requireDirectory_eq_ok_iff.mpr ⟨mode, found⟩) usable.secretFree
      obtain ⟨locked, ran, changes, kept⟩ := run_lock_of_usable usable
      have removed := remove_of_file (usable.of_changes changes).locate (kept.trans found)
      have deleted := run_delete_of_locked there ran
      rw [removed] at deleted
      obtain ⟨outcome, changed, ranAgain, deleteChanges⟩ := run_delete_changes store machine
      rw [deleted] at ranAgain
      obtain rfl := congrArg (fun run => run.2.files) ranAgain
      exact ⟨_, deleted, deleteChanges, find?_erase_self _ _ _⟩

end Operations

/-! ## Sealed secrets -/

/-- A store reads back the secret that a store with the same key has sealed, unless the marker
occurs in the payload. -/
theorem openNode_of_sealed
    {store : FileStore}
    {masterKey : MasterKey}
    {algorithm : Algorithm}
    {nonce : FixedBytes algorithm.nonceLength}
    {secret : Text}
    (sameKey : store.masterKey.bytes = masterKey.bytes)
    (nonempty : secret ≠ [])
    (unmarked : Codec.holdsPlaintext (Envelope.create algorithm masterKey.cipherKey nonce
      (Utf8.encode secret)).toBytes = false)
    (mode : Nat) :
    store.openNode (.file mode (Encoding.toBase64 (Envelope.create algorithm masterKey.cipherKey
      nonce (Utf8.encode secret)).toBytes)) = .ok secret := by
  have resolved : Key.resolve store.masterKey.cipherKeyText = .ok masterKey.cipherKey := by
    rw [MasterKey.resolve_cipherKeyText, MasterKey.cipherKey, MasterKey.cipherKey, sameKey]
  have decrypted := Codec.decrypt_spelling_create (Utf8.encode_ne_nil nonempty) resolved unmarked
    (Base64.Spelling.refl _)
  have ascii := Codec.ascii_toBase64 (Envelope.create algorithm masterKey.cipherKey nonce
    (Utf8.encode secret)).toBytes
  simp only [openNode, Utf8.decode_ofAscii ascii, openSecret, Utf8.encode_ofAscii ascii, decrypted,
    Utf8.decode_encode]

end FileStore
end Lockbox
