import Lockbox.Proofs.Directories
import Lockbox.Proofs.Frames
import Lockbox.Proofs.MasterKey.Keyring
import Lockbox.Proofs.Permissions.Guards
import Lockbox.Proofs.Store.Steps

/-!
# Nothing is opened

Whether they succeed or not, the operations of stores and of providers of master keys guard every
place (`FileStore.guards_put`, `KeyProvider.guards_resolve`, `FileStore.guards_bootstrap` and their
like), since all that they do to files is to take locks, to put and remove private files, and to
make private directories. -/

namespace Lockbox

open FileSystem

/-! ## Private files and directories -/

section Actions

open Lockbox.Action

theorem PrivateFile.guards_lock (path : Path) : (lock path).Ensures Guards := by
  intro machine
  cases outcome : lockOutcome machine.files path with
  | error failure =>
      rw [run_lock_of_error outcome]
      exact .refl _
  | ok =>
      obtain ⟨location, isLock, noDirectory⟩ := lockOutcome_eq_ok_iff.mp outcome
      rw [run_lock_of_noDirectory isLock noDirectory]
      exact .of_file (ChangesOnly.insert_file noDirectory _ _) (find?_insert_self _ _ _)

theorem PrivateFile.guards_put (path : Path) (content : Bytes) :
    (put path content).Ensures Guards := by
  intro machine
  rcases putWith_cases {} path content machine with ⟨failure, ran⟩ | ⟨changed, replaced, ran⟩
  · rw [put, ran]
    exact .refl _
  · obtain ⟨location, -, found, changes⟩ := changes_of_replace replaced
    rw [put, ran]
    exact .of_file changes found

theorem Directories.guards_createPrivate (path : Path) : (createPrivate path).Ensures Guards := by
  intro machine
  have grows := Guards.of_grows (grows_createDirectories machine.files path)
  rw [run_createPrivate]
  split
  next created =>
    rw [created] at grows
    exact grows
  next changed created =>
    rw [created] at grows
    split
    next => exact grows
    next final modeSet =>
      obtain ⟨mode, found⟩ :=
        status_of_createDirectories (checkPath_of_setMode modeSet) created
      obtain ⟨place, -, modeSetAgain, changes, -⟩ := setMode_of_directory found
      obtain rfl := Except.ok.inj (modeSet.symm.trans modeSetAgain)
      apply Guards.trans grows
      apply Guards.of_changes changes
      rw [find?_insert_self]
      exact .privateDirectory

end Actions

/-! ## Stores and master keys -/

namespace FileStore

open Lockbox.Action

theorem guards_save (store : FileStore) (payload : Bytes) :
    (store.save payload).Ensures Guards := by
  apply Ensures.bind
  · exact (PrivateFile.guards_lock _).mapError _
  · intro _
    exact (PrivateFile.guards_put _ payload).mapError _

theorem guards_put (store : FileStore) (secret : Text) : (store.put secret).Ensures Guards := by
  have sealing : ∀ _ : Unit, (Action.mapError .encryption (Action.draw (store.codec.sealText
      (Utf8.encode secret) store.masterKey.cipherKeyText)) >>= store.save).Ensures Guards := by
    intro _
    exact .bind ((Ensures.draw _).mapError _) store.guards_save
  unfold put putBy
  split
  next => exact .bind (.throw _) sealing
  next => exact sealing ()

theorem guards_get (store : FileStore) : store.get.Ensures Guards := by
  unfold get
  refine .bind (.observe _) ?_
  intro there
  have reading : ∀ _ : Unit, (do
      Action.mapError (StoreError.file store.secretPath) (PrivateFile.lock store.secretPath)
      let payload ← Action.mapError (readError store.secretPath)
        (Action.lookFiles (FileSystem.readText · store.secretPath))
      Action.lift (store.openSecret payload)).Ensures Guards := by
    intro _
    refine .bind ((PrivateFile.guards_lock _).mapError _) ?_
    intro _
    refine .bind ((Ensures.lookFiles _).mapError _) ?_
    intro payload
    exact .lift _
  split
  next => exact .bind (.throw _) reading
  next => exact reading ()

theorem guards_delete (store : FileStore) : store.delete.Ensures Guards := by
  have removing : (Action.changeFiles (FileSystem.remove · store.secretPath)).Ensures Guards := by
    apply Ensures.changeFiles
    intro files changed removed
    obtain ⟨location, located, -⟩ := changes_of_remove removed
    obtain ⟨place, -, rfl⟩ := exists_place_of_locate located
    exact Guards.of_removed located removed
  unfold delete
  refine .bind (.observe _) ?_
  intro there
  split
  next => exact .pure _
  next =>
    refine .bind ((PrivateFile.guards_lock _).mapError _) ?_
    intro _
    refine .bind (.observe _) ?_
    intro removal
    split
    next => exact .pure _
    next => exact removing.mapError _

end FileStore

namespace MasterKey

open Lockbox.Action

/-- Making a key leaves the files alone. -/
theorem ensures_generate
    {relation : FileSystem → FileSystem → Prop}
    [IsPreorder FileSystem relation]
    (origin : KeyOrigin) :
    (generate origin).Ensures relation := by
  refine .bind (.draw _) ?_
  intro bytes
  exact .pure _

theorem guards_ofDirectory (directory : Path) : (ofDirectory directory).Ensures Guards := by
  unfold ofDirectory
  refine .bind ((PrivateFile.guards_lock _).mapError _) ?_
  intro _
  refine .bind (.observe _) ?_
  intro content
  split
  next => exact .lift _
  next =>
    refine .bind (ensures_generate _) ?_
    intro key
    refine .bind ((PrivateFile.guards_put _ _).mapError _) ?_
    intro _
    exact .pure _
  next => exact .throw _

theorem guards_ofDirectoryOr (explicit : Option Text) (directory : Path) :
    (ofDirectoryOr explicit directory).Ensures Guards := by
  unfold ofDirectoryOr
  split
  next => exact guards_ofDirectory directory
  next =>
    refine .orElse (.lookFiles _) ?_
    intro _
    exact guards_ofDirectory directory

theorem guards_ofKeyring (name : KeyringName) : (ofKeyring name).Ensures Guards :=
  .of_files_eq fun machine => (obtains_ofKeyring name machine).files_eq

end MasterKey

theorem KeyProvider.guards_resolve (provider : KeyProvider) : provider.resolve.Ensures Guards := by
  unfold resolve
  split
  next directory explicit =>
    refine .bind (MasterKey.guards_ofDirectoryOr explicit directory) ?_
    intro key
    exact .pure _
  next name =>
    refine .bind (MasterKey.guards_ofKeyring name) ?_
    intro key
    exact .pure _
  next => exact .pure _
  next =>
    refine .bind (MasterKey.ensures_generate .ephemeral) ?_
    intro key
    exact .pure _

theorem Directories.guards_resolve {ε : Type} (requested : Option Path) :
    (resolve requested : Action ε Path).Ensures Guards := by
  have createAndReturn : ∀ path : Path,
      (do createPrivate path; return path : Action IoError Path).Ensures Guards := by
    intro path
    refine .bind (guards_createPrivate path) ?_
    intro _
    exact .pure _
  refine .bind (.observe _) ?_
  intro environment
  refine .orElse (createAndReturn _) ?_
  intro _
  refine .orElse (createAndReturn _) ?_
  intro _
  exact .pure _

namespace FileStore

open Lockbox.Action

theorem guards_openWith
    (identity : Identity)
    (directory : Path)
    (provider : KeyProvider)
    (codec : Codec) :
    (openWith identity directory provider codec).Ensures Guards := by
  refine .bind ((Directories.guards_createPrivate directory).mapError _) ?_
  intro _
  refine .bind (provider.guards_resolve.mapError _) ?_
  intro key
  exact .pure _

/-- The key of a store that is made from settings is had in a way that changes no more files than
asking the directory for it does. -/
theorem ensures_substitute
    {relation : FileSystem → FileSystem → Prop}
    [IsPreorder FileSystem relation]
    {asking : Action KeyError MasterKey}
    (ensures : asking.Ensures relation) :
    (Action.orElse asking fun (_ : KeyError) =>
      Action.orElse MasterKey.ephemeral fun (_ : KeyError) => lastResort).Ensures relation := by
  refine .orElse ensures ?_
  intro _
  refine .orElse (MasterKey.ensures_generate .ephemeral) ?_
  intro _
  apply Ensures.of_files_eq
  intro machine
  unfold lastResort
  split <;> rfl

theorem guards_bootstrap
    (identity : Identity)
    (settings : Settings)
    (codec : Codec) :
    (bootstrap identity settings codec).Ensures Guards := by
  refine .bind (Directories.guards_resolve settings.secretsDirectory) ?_
  intro directory
  refine .bind (ensures_substitute (MasterKey.guards_ofDirectoryOr _ directory)) ?_
  intro key
  exact .pure _

end FileStore

end Lockbox
