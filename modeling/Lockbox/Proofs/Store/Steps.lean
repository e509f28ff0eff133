import Lockbox.Proofs.Identity
import Lockbox.Proofs.PrivateFile.Temporary
import Lockbox.Store.FileStore

/-!
# Steps of a file store

What each operation of a store can do to the files (`run_put`, `run_delete`, `run_get`), and what
reading a secret depends on (`getOutcome`).
-/

namespace Lockbox
namespace FileStore

open FileSystem

/-! ## Places -/

/-- The places that the operations of a store may touch: those of its secret and of its lock. -/
def MayTouch (store : FileStore) (files : FileSystem) (location : Location) : Prop :=
  ∃ place, files.reach store.directory = .ok place ∧
    (location = store.identity.fileName :: place ∨
      location = PrivateFile.lockName store.identity.fileName :: place)

section Places

variable {store : FileStore} {files before after : FileSystem} {location : Location}

theorem reach_of_changes
    (changes : ChangesOnly (store.MayTouch before) before after) :
    after.reach store.directory = before.reach store.directory :=
  PrivateFile.reach_of_changes changes rfl

/-- An operation does not move the places that the next one may touch. -/
theorem mayTouch_of_changes
    (changes : ChangesOnly (store.MayTouch before) before after) :
    store.MayTouch after = store.MayTouch before :=
  PrivateFile.mayTouch_of_changes changes

theorem exists_place_of_locate
    (located : files.locate store.secretPath = .ok location) :
    ∃ place, files.reach store.directory = .ok place ∧
      location = store.identity.fileName :: place :=
  exists_reach_of_locate_join store.identity.isPlain_fileName located

theorem exists_place_of_isLock
    (isLock : PrivateFile.IsLock files store.secretPath location) :
    ∃ place, files.reach store.directory = .ok place ∧
      location = PrivateFile.lockName store.identity.fileName :: place :=
  PrivateFile.exists_place_of_isLock store.identity.isPlain_fileName isLock

theorem mayTouch_of_locate
    (located : files.locate store.secretPath = .ok location) :
    store.MayTouch files location :=
  PrivateFile.mayTouch_of_locate store.identity.isPlain_fileName located

theorem mayTouch_of_isLock
    (isLock : PrivateFile.IsLock files store.secretPath location) :
    store.MayTouch files location :=
  PrivateFile.mayTouch_of_isLock store.identity.isPlain_fileName isLock

/-- What spares all but the secret touches no more than an operation may. -/
theorem changes_of_spares
    (spares : PrivateFile.Spares store.secretPath (before.locate store.secretPath = .ok ·)
      before after) :
    ChangesOnly (store.MayTouch before) before after := by
  apply spares.toChangesOnly.mono
  rintro location (located | isLock)
  · exact mayTouch_of_locate located
  · exact mayTouch_of_isLock isLock

theorem changes_of_spares_all
    (spares : PrivateFile.Spares store.secretPath (fun _ => False) before after) :
    ChangesOnly (store.MayTouch before) before after :=
  spares.lockChanges.mono fun _ => mayTouch_of_isLock

/-- A change of the place of the secret after the lock has been taken spares the rest. -/
theorem spares_of_changes_at
    {between : FileSystem}
    (spares : PrivateFile.Spares store.secretPath (fun _ => False) before between)
    (located : between.locate store.secretPath = .ok location)
    (changes : ChangesOnly (· = location) between after) :
    PrivateFile.Spares store.secretPath (before.locate store.secretPath = .ok ·) before after := by
  apply (spares.mono fun _ => False.elim).trans_changes
  apply changes.mono
  rintro place rfl
  exact spares.symm.locate_eq_ok located

/-- The secret and the lock of a store are apart. -/
theorem not_isLock_of_locate
    (located : files.locate store.secretPath = .ok location) :
    ¬ PrivateFile.IsLock files store.secretPath location :=
  PrivateFile.not_isLock_of_locate store.identity.isPlain_fileName located

/-- Taking the lock leaves the secret as it is. -/
theorem status_of_lock_changes
    (changes : ChangesOnly (PrivateFile.IsLock before store.secretPath) before after)
    {node : Node}
    (found : before.status store.secretPath = .ok node) :
    after.status store.secretPath = .ok node :=
  changes.status_eq_ok (fun _ located => not_isLock_of_locate located) found

theorem not_mayTouch
    {name : Text}
    {place : Location}
    (noSecret : name ≠ store.identity.fileName)
    (noLock : name ≠ PrivateFile.lockName store.identity.fileName) :
    ¬ store.MayTouch files (name :: place) :=
  PrivateFile.not_mayTouch noSecret noLock

end Places

theorem run_pathExists
    {machine : Machine}
    {path : Path}
    {there : Bool}
    (known : machine.files.pathExists path = there) :
    (Action.observe fun machine => machine.files.pathExists path : Action StoreError Bool) machine =
      (.ok there, machine) := by
  rw [Action.observe, known]

/-! ## Storing -/

/-- The second half of storing: a sealed payload takes the place of the one before. -/
def save (store : FileStore) (payload : Bytes) : Action StoreError Unit := do
  Action.mapError (.file store.secretPath) (PrivateFile.lock store.secretPath)
  Action.mapError (.file store.secretPath) (PrivateFile.put store.secretPath payload)

theorem run_save_of_locked
    {store : FileStore}
    {machine : Machine}
    {locked : FileSystem}
    (ran : PrivateFile.lock store.secretPath machine = (.ok (), { machine with files := locked }))
    (free : PrivateFile.lockOutcome locked store.secretPath = .ok ())
    (payload : Bytes) :
    store.save payload machine =
      match locked.replace store.secretPath PrivateFile.mode payload with
      | .ok changed => (.ok (), { machine with files := changed })
      | .error failure =>
        (.error (.file store.secretPath failure), { machine with files := locked }) := by
  have putting : PrivateFile.put store.secretPath payload { machine with files := locked } = _ :=
    PrivateFile.run_put store.identity.isPlain_fileName store.identity.ten_le_byteLength_lockName
      free payload
  rw [save, run_bind_of_ok (Action.run_mapError_of_ok ran)]
  cases replaced : locked.replace store.secretPath PrivateFile.mode payload with
  | ok changed =>
      exact Action.run_mapError_of_ok (putting.trans (Action.run_changeFiles_of_ok replaced))
  | error failure =>
      exact Action.run_mapError_of_error (putting.trans (Action.run_changeFiles_of_error replaced))

/-- All that saving a payload can do to the files: it fails and has at most taken the lock, or the
payload is in the place of the secret. -/
inductive Saves (store : FileStore) (payload : Bytes) (before : FileSystem) :
    Except StoreError Unit → FileSystem → Prop
  | failed {failure : IoError} {after : FileSystem}
      (spares : PrivateFile.Spares store.secretPath (fun _ => False) before after) :
      Saves store payload before (.error (.file store.secretPath failure)) after
  | saved {after : FileSystem}
      (free : PrivateFile.lockOutcome before store.secretPath = .ok ())
      (found : after.status store.secretPath = .ok (.file PrivateFile.mode payload))
      (spares : PrivateFile.Spares store.secretPath (before.locate store.secretPath = .ok ·)
        before after) :
      Saves store payload before (.ok ()) after

theorem Saves.changes
    {store : FileStore}
    {payload : Bytes}
    {before after : FileSystem}
    {outcome : Except StoreError Unit}
    (saves : Saves store payload before outcome after) :
    ChangesOnly (store.MayTouch before) before after := by
  cases saves with
  | failed spares => exact changes_of_spares_all spares
  | saved _ _ spares => exact changes_of_spares spares

theorem run_save
    (store : FileStore)
    (payload : Bytes)
    (machine : Machine) :
    ∃ outcome changed,
      store.save payload machine = (outcome, { machine with files := changed }) ∧
      Saves store payload machine.files outcome changed := by
  obtain ⟨locked, ran, spares⟩ := PrivateFile.run_lock store.secretPath machine
  cases free : PrivateFile.lockOutcome machine.files store.secretPath with
  | error failure =>
      rw [free] at ran
      exact ⟨.error (.file store.secretPath failure), locked,
        run_bind_of_error (Action.run_mapError_of_error ran), .failed spares⟩
  | ok =>
      rw [free] at ran
      rw [run_save_of_locked ran (PrivateFile.lockOutcome_of_changes spares.toChangesOnly free)]
      cases replaced : locked.replace store.secretPath PrivateFile.mode payload with
      | error failure => exact ⟨_, locked, rfl, .failed spares⟩
      | ok changed =>
          obtain ⟨location, located, found, putChanges⟩ := changes_of_replace replaced
          have status : changed.status store.secretPath = .ok (.file PrivateFile.mode payload) := by
            simp only [FileSystem.status, putChanges.locate_eq_ok located, found]
          exact ⟨_, changed, rfl, .saved free status
            (spares_of_changes_at spares located putChanges)⟩

section Put

variable {store : FileStore} {secret : Text} {machine : Machine} {rest : RandomSource}

/-- A secret that cannot be sealed is not stored. -/
theorem run_put_of_refused
    {failure : CodecError}
    (nonempty : secret ≠ [])
    (refused : store.codec.sealText (Utf8.encode secret) store.masterKey.cipherKeyText
      machine.random = (.error failure, rest)) :
    store.put secret machine = (.error (.encryption failure), { machine with random := rest }) := by
  have drawn : Action.draw (store.codec.sealText (Utf8.encode secret)
      store.masterKey.cipherKeyText) machine =
        (.error failure, { machine with random := rest }) := by
    rw [Action.draw, refused]
  simp only [put, putBy, if_neg (show ¬ secret.isEmpty = true by simpa using nonempty)]
  exact run_bind_of_error (Action.run_mapError_of_error drawn)

/-- A secret that has been sealed is saved. -/
theorem run_put_of_sealed
    {payload : Bytes}
    (nonempty : secret ≠ [])
    (sealing : store.codec.sealText (Utf8.encode secret) store.masterKey.cipherKeyText
      machine.random = (.ok payload, rest)) :
    store.put secret machine = store.save payload { machine with random := rest } := by
  have drawn : Action.draw (store.codec.sealText (Utf8.encode secret)
      store.masterKey.cipherKeyText) machine = (.ok payload, { machine with random := rest }) := by
    rw [Action.draw, sealing]
  simp only [put, putBy, if_neg (show ¬ secret.isEmpty = true by simpa using nonempty)]
  exact run_bind_of_ok (Action.run_mapError_of_ok drawn)

end Put

@[simp] theorem run_put_nil (store : FileStore) (machine : Machine) :
    store.put [] machine = (.error .emptySecret, machine) := rfl

/-- Without the lock nothing is stored. -/
theorem run_put_of_lockedOut
    {store : FileStore}
    {machine : Machine}
    {failure : IoError}
    (secret : Text)
    (lockedOut : PrivateFile.lockOutcome machine.files store.secretPath = .error failure) :
    ∃ reason random,
      store.put secret machine = (.error reason, { machine with random := random }) := by
  by_cases empty : secret = []
  · subst empty
    exact ⟨_, machine.random, run_put_nil store machine⟩
  cases sealing : store.codec.sealText (Utf8.encode secret) store.masterKey.cipherKeyText
      machine.random with
  | mk outcome rest =>
      cases outcome with
      | error reason => exact ⟨_, rest, run_put_of_refused empty sealing⟩
      | ok payload =>
          have locking : PrivateFile.lock store.secretPath { machine with random := rest } =
              (.error failure, { machine with random := rest }) :=
            PrivateFile.run_lock_of_error lockedOut
          exact ⟨_, rest, (run_put_of_sealed empty sealing).trans
            (run_bind_of_error (Action.run_mapError_of_error locking))⟩

/-- All that storing a secret can do to the files: it fails and has at most taken the lock, or the
sealed secret is in its place. -/
inductive Puts (store : FileStore) (secret : Text) (random : RandomSource) (before : FileSystem) :
    Except StoreError Unit → FileSystem → Prop
  | failed {failure : StoreError} {after : FileSystem}
      (spares : PrivateFile.Spares store.secretPath (fun _ => False) before after) :
      Puts store secret random before (.error failure) after
  | stored {payload : Bytes} {rest : RandomSource} {after : FileSystem}
      (sealing : store.codec.sealText (Utf8.encode secret) store.masterKey.cipherKeyText random =
        (.ok payload, rest))
      (free : PrivateFile.lockOutcome before store.secretPath = .ok ())
      (found : after.status store.secretPath = .ok (.file PrivateFile.mode payload))
      (spares : PrivateFile.Spares store.secretPath (before.locate store.secretPath = .ok ·)
        before after) :
      Puts store secret random before (.ok ()) after

theorem run_put
    (store : FileStore)
    (secret : Text)
    (machine : Machine) :
    ∃ outcome random changed,
      store.put secret machine =
        (outcome, { machine with random := random, files := changed }) ∧
      Puts store secret machine.random machine.files outcome changed := by
  by_cases empty : secret = []
  · subst empty
    exact ⟨_, machine.random, machine.files, run_put_nil store machine, .failed (.refl _)⟩
  cases sealing : store.codec.sealText (Utf8.encode secret) store.masterKey.cipherKeyText
      machine.random with
  | mk outcome rest =>
      cases outcome with
      | error failure =>
          exact ⟨_, rest, machine.files, run_put_of_refused empty sealing, .failed (.refl _)⟩
      | ok payload =>
          obtain ⟨saved, changed, ran, saves⟩ :=
            run_save store payload { machine with random := rest }
          refine ⟨saved, rest, changed, (run_put_of_sealed empty sealing).trans ran, ?_⟩
          cases saves with
          | failed spares => exact .failed spares
          | saved free found spares => exact .stored sealing free found spares

/-- Storing touches the secret and its lock and nothing else, whether it succeeds or not. -/
theorem run_put_changes
    (store : FileStore)
    (secret : Text)
    (machine : Machine) :
    ∃ outcome random changed,
      store.put secret machine =
        (outcome, { machine with random := random, files := changed }) ∧
      ChangesOnly (store.MayTouch machine.files) machine.files changed := by
  obtain ⟨outcome, random, changed, ran, puts⟩ := run_put store secret machine
  refine ⟨outcome, random, changed, ran, ?_⟩
  cases puts with
  | failed spares => exact changes_of_spares_all spares
  | stored _ _ _ spares => exact changes_of_spares spares

/-! ## Reading -/

/-- What reading gives when there is something in the place of the secret. -/
def openNode (store : FileStore) : Node → Except StoreError Text
  | .directory _ => .error (.file store.secretPath .isDirectory)
  | .file _ content =>
    match Utf8.decode content with
    | .error _ => .error (.file store.secretPath .notText)
    | .ok payload => store.openSecret payload

/-- What reading gives. It depends on what is in the place of the secret and on whether the lock
can be taken. -/
def getOutcome (store : FileStore) (files : FileSystem) : Except StoreError Text :=
  match files.status store.secretPath with
  | .error _ => .error (.notFound store.secretPath)
  | .ok node =>
    match PrivateFile.lockOutcome files store.secretPath with
    | .error failure => .error (.file store.secretPath failure)
    | .ok () => store.openNode node

theorem run_read
    (store : FileStore)
    {node : Node}
    {machine : Machine}
    (found : machine.files.status store.secretPath = .ok node) :
    (do
      let payload ← Action.mapError (readError store.secretPath)
        (Action.lookFiles (FileSystem.readText · store.secretPath))
      Action.lift (store.openSecret payload)) machine = (store.openNode node, machine) := by
  cases node with
  | directory mode =>
      have refused : machine.files.readText store.secretPath = .error .isDirectory := by
        simp only [readText, FileSystem.read, found]
      apply run_bind_of_error
      rw [Action.mapError, Action.lookFiles, refused]
      rfl
  | file mode content =>
      cases decoded : Utf8.decode content with
      | error fault =>
          have refused : machine.files.readText store.secretPath = .error .notText := by
            simp only [readText, FileSystem.read, found, decoded]
          simp only [openNode, decoded]
          apply run_bind_of_error
          rw [Action.mapError, Action.lookFiles, refused]
          rfl
      | ok payload =>
          have text : machine.files.readText store.secretPath = .ok payload := by
            simp only [readText, FileSystem.read, found, decoded]
          simp only [openNode, decoded]
          apply run_bind_of_ok
          rw [Action.mapError, Action.lookFiles, text]
          rfl

theorem run_get_of_missing
    {store : FileStore}
    {machine : Machine}
    (missing : machine.files.pathExists store.secretPath = false) :
    store.get machine = (.error (.notFound store.secretPath), machine) := by
  simp only [get]
  rw [run_bind_of_ok (run_pathExists missing)]
  rfl

/-- Reading gives what can be told beforehand and spares everything. -/
theorem run_get
    (store : FileStore)
    (machine : Machine) :
    ∃ changed,
      store.get machine = (store.getOutcome machine.files, { machine with files := changed }) ∧
      PrivateFile.Spares store.secretPath (fun _ => False) machine.files changed := by
  cases found : machine.files.status store.secretPath with
  | error failure =>
      have missing : machine.files.pathExists store.secretPath = false := by
        rw [pathExists, found]
      refine ⟨machine.files, ?_, .refl _⟩
      rw [run_get_of_missing missing, getOutcome, found]
  | ok node =>
      have there : machine.files.pathExists store.secretPath = true := by rw [pathExists, found]
      obtain ⟨locked, ran, spares⟩ := PrivateFile.run_lock store.secretPath machine
      refine ⟨locked, ?_, spares⟩
      simp only [get, getOutcome, found]
      rw [run_bind_of_ok (run_pathExists there)]
      simp only [Bool.not_true, Bool.false_eq_true, if_false]
      cases outcome : PrivateFile.lockOutcome machine.files store.secretPath with
      | error failure =>
          rw [outcome] at ran
          exact run_bind_of_error (Action.run_mapError_of_error ran)
      | ok =>
          rw [outcome] at ran
          have stillFound := status_of_lock_changes spares.lockChanges found
          exact (run_bind_of_ok (Action.run_mapError_of_ok ran)).trans
            (run_read store stillFound)

/-- Where there is something in the place of the secret, reading gives the failure of the lock or
what that opens to. -/
theorem get_of_status
    {store : FileStore}
    {node : Node}
    {machine : Machine}
    (found : machine.files.status store.secretPath = .ok node) :
    (store.get machine).1 =
      match (PrivateFile.lock store.secretPath machine).1 with
      | .error failure => .error (.file store.secretPath failure)
      | .ok () => store.openNode node := by
  obtain ⟨changed, ran, -⟩ := run_get store machine
  obtain ⟨locked, lockRan, -⟩ := PrivateFile.run_lock store.secretPath machine
  rw [ran, lockRan]
  simp only [getOutcome, found]

/-! ## Deleting -/

theorem run_delete_of_missing
    {store : FileStore}
    {machine : Machine}
    (missing : machine.files.pathExists store.secretPath = false) :
    store.delete machine = (.ok (), machine) := by
  simp only [delete]
  rw [run_bind_of_ok (run_pathExists missing)]
  rfl

theorem run_delete_of_locked
    {store : FileStore}
    {machine : Machine}
    {locked : FileSystem}
    (there : machine.files.pathExists store.secretPath = true)
    (ran : PrivateFile.lock store.secretPath machine = (.ok (), { machine with files := locked })) :
    store.delete machine =
      match locked.remove store.secretPath with
      | .ok changed => (.ok (), { machine with files := changed })
      | .error .notFound => (.ok (), { machine with files := locked })
      | .error failure =>
        (.error (.file store.secretPath failure), { machine with files := locked }) := by
  simp only [delete]
  rw [run_bind_of_ok (run_pathExists there)]
  simp only [Bool.not_true, Bool.false_eq_true, if_false]
  rw [run_bind_of_ok (Action.run_mapError_of_ok ran), run_bind, Action.observe]
  cases removed : locked.remove store.secretPath with
  | ok changed =>
      exact Action.run_mapError_of_ok (Action.run_changeFiles_of_ok removed)
  | error failure =>
      cases failure with
      | notFound => rfl
      | _ => exact Action.run_mapError_of_error (Action.run_changeFiles_of_error removed)

/-- All that deleting a secret can do to the files: it fails and has at most taken the lock, or
there is no secret any more. -/
inductive Deletes (store : FileStore) (before : FileSystem) :
    Except StoreError Unit → FileSystem → Prop
  | failed {failure : StoreError} {after : FileSystem}
      (spares : PrivateFile.Spares store.secretPath (fun _ => False) before after) :
      Deletes store before (.error failure) after
  | deleted {after : FileSystem}
      (spares : PrivateFile.Spares store.secretPath (before.locate store.secretPath = .ok ·)
        before after)
      (gone : after.pathExists store.secretPath = false) :
      Deletes store before (.ok ()) after

theorem run_delete
    (store : FileStore)
    (machine : Machine) :
    ∃ outcome changed,
      store.delete machine = (outcome, { machine with files := changed }) ∧
      Deletes store machine.files outcome changed := by
  cases there : machine.files.pathExists store.secretPath with
  | false =>
      exact ⟨.ok (), machine.files, run_delete_of_missing there, .deleted (.refl _) there⟩
  | true =>
      obtain ⟨locked, ran, spares⟩ := PrivateFile.run_lock store.secretPath machine
      cases outcome : PrivateFile.lockOutcome machine.files store.secretPath with
      | error failure =>
          rw [outcome] at ran
          refine ⟨.error (.file store.secretPath failure), locked, ?_, .failed spares⟩
          simp only [delete]
          rw [run_bind_of_ok (run_pathExists there)]
          exact run_bind_of_error (Action.run_mapError_of_error ran)
      | ok =>
          rw [outcome] at ran
          rw [run_delete_of_locked there ran]
          cases removed : locked.remove store.secretPath with
          | error failure =>
              cases failure with
              | notFound =>
                  exact ⟨_, locked, rfl, .deleted (spares.mono fun _ => False.elim)
                    (pathExists_of_remove_eq_notFound removed)⟩
              | _ => exact ⟨_, locked, rfl, .failed spares⟩
          | ok changed =>
              obtain ⟨location, located, removal⟩ := changes_of_remove removed
              obtain ⟨place, -, rfl⟩ := exists_place_of_locate located
              obtain ⟨nothing, removeChanges⟩ := removal (List.cons_ne_nil _ _)
              have gone : changed.pathExists store.secretPath = false := by
                simp only [pathExists, status, removeChanges.locate_eq_ok located, nothing]
              exact ⟨_, changed, rfl,
                .deleted (spares_of_changes_at spares located removeChanges) gone⟩

/-- Deleting touches the secret and its lock and nothing else, whether it succeeds or not. -/
theorem run_delete_changes
    (store : FileStore)
    (machine : Machine) :
    ∃ outcome changed,
      store.delete machine = (outcome, { machine with files := changed }) ∧
      ChangesOnly (store.MayTouch machine.files) machine.files changed := by
  obtain ⟨outcome, changed, ran, deletes⟩ := run_delete store machine
  refine ⟨outcome, changed, ran, ?_⟩
  cases deletes with
  | failed spares => exact changes_of_spares_all spares
  | deleted spares _ => exact changes_of_spares spares

/-! ## Sample stores -/

/-- A store in the directory `/s`, to try things on. -/
def sample (service name : Text) : FileStore where
  directory := "/s".toList
  identity := Identity.ofLabels service name
  masterKey := { bytes := ⟨List.replicate 32 0x6B, rfl⟩, origin := .environment }

/-- An empty directory for the sample stores, and one nonce. -/
def freshMachine : Machine where
  files := { entries := [(["s".toList], .directory 0o755)], workingDirectory := [] }
  random := [.bytes (List.replicate 24 0)]

end FileStore
end Lockbox
