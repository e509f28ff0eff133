import Lockbox.Proofs.Permissions.Operations
import Lockbox.Proofs.Store.Survival

/-!
# Secrets are open to their owner alone

A secret that has been stored and a key file that has been made are private with their locks, and
the directory of a store is private (`PrivateFile.IsPrivate`). All that is done next guards every
place, so this stays (`Errand.guards_performAll`, `Errand.performAll_ownerOnly`).
-/

namespace Lockbox

open FileSystem

variable {path : Path}

/-! ## Files that have been put -/

namespace PrivateFile

/-- A file is there with its lock, and both are private. -/
structure IsPrivate (path : Path) (files : FileSystem) : Prop where
  file : ∃ content, files.status path = .ok (.file mode content)
  lock : ∃ content, files.status (lockPath path) = .ok (.file mode content)

section Put

variable {machine after : Machine}

theorem status_of_lock
    (locked : lock path machine = (.ok (), after)) :
    ∃ content, after.files.status (lockPath path) = .ok (.file mode content) := by
  cases outcome : lockOutcome machine.files path with
  | error failure =>
      rw [run_lock_of_error outcome] at locked
      cases (Prod.mk.inj locked).1
  | ok =>
      obtain ⟨location, isLock, noDirectory⟩ := lockOutcome_eq_ok_iff.mp outcome
      rw [run_lock_of_noDirectory isLock noDirectory] at locked
      obtain rfl := (Prod.mk.inj locked).2
      have changes := ChangesOnly.insert_file noDirectory mode
        ((machine.files.content? location).getD [])
      exact ⟨_, status_eq_ok_iff.mpr
        ⟨location, changes.locate_eq_ok isLock, find?_insert_self _ _ _⟩⟩

/-- A file that is put under a private lock is private with it. -/
theorem isPrivate_of_put
    {directory : Path}
    {name : Text}
    {content : Bytes}
    (plain : Path.IsPlain name)
    (locked : ∃ old, machine.files.status (lockPath (Path.join directory name)) =
      .ok (.file mode old))
    (done : put (Path.join directory name) content machine = (.ok (), after)) :
    IsPrivate (Path.join directory name) after.files := by
  obtain ⟨old, foundLock⟩ := locked
  rcases putWith_cases {} (Path.join directory name) content machine with
    ⟨failure, ran⟩ | ⟨changed, replaced, ran⟩
  · cases ran.symm.trans done
  · obtain rfl := (Prod.mk.inj (ran.symm.trans done)).2
    obtain ⟨location, located, found, changes⟩ := changes_of_replace replaced
    constructor
    · exact ⟨content, status_eq_ok_iff.mpr ⟨location, changes.locate_eq_ok located, found⟩⟩
    · refine ⟨old, changes.status_eq_ok ?_ foundLock⟩
      rintro _ isLock rfl
      exact not_isLock_of_locate plain located isLock

end Put

end PrivateFile

section Successes

variable {machine after : Machine}

/-- A secret that has been stored has been sealed and saved. -/
theorem FileStore.exists_save_of_put_eq_ok
    {store : FileStore}
    {secret : Text}
    (stored : store.put secret machine = (.ok (), after)) :
    ∃ payload between, store.save payload between = (.ok (), after) := by
  by_cases empty : secret = []
  · rw [empty, run_put_nil] at stored
    cases (Prod.mk.inj stored).1
  cases sealing : store.codec.sealText (Utf8.encode secret) store.masterKey.cipherKeyText
      machine.random with
  | mk outcome rest =>
      cases outcome with
      | error failure =>
          rw [run_put_of_refused empty sealing] at stored
          cases (Prod.mk.inj stored).1
      | ok payload => exact ⟨payload, _, (run_put_of_sealed empty sealing).symm.trans stored⟩

/-- A secret that has been stored is private. -/
theorem FileStore.isPrivate_of_put
    {store : FileStore}
    {secret : Text}
    (stored : store.put secret machine = (.ok (), after)) :
    PrivateFile.IsPrivate store.secretPath after.files := by
  obtain ⟨payload, between, saved⟩ := exists_save_of_put_eq_ok stored
  obtain ⟨_, locked, locking, putting⟩ := exists_of_bind_eq_ok saved
  exact PrivateFile.isPrivate_of_put store.identity.isPlain_fileName
    (PrivateFile.status_of_lock (Action.run_of_mapError_eq_ok locking))
    (Action.run_of_mapError_eq_ok putting)

namespace MasterKey

variable {explicit : Option Text} {directory : Path} {key : MasterKey}

theorem of_generate_eq_ok
    {origin : KeyOrigin}
    (made : generate origin machine = (.ok key, after)) :
    key.origin = origin ∧ after.files = machine.files := by
  rw [run_generate] at made
  split at made
  next => cases (Prod.mk.inj made).1
  next =>
    obtain ⟨same, rfl⟩ := Prod.mk.inj made
    rw [← Except.ok.inj same]
    exact ⟨rfl, rfl⟩

/-- A new key of a directory is in a private file. -/
theorem isPrivate_of_ofDirectory
    (had : ofDirectory directory machine = (.ok key, after))
    (generated : key.origin = .generated path) :
    path = filePath directory ∧ PrivateFile.IsPrivate path after.files := by
  obtain ⟨_, locked, locking, had⟩ := exists_of_bind_eq_ok had
  obtain ⟨content, read, reading, had⟩ := exists_of_bind_eq_ok had
  obtain ⟨same, rfl⟩ := Prod.mk.inj reading
  split at had
  next text =>
    -- A key that is read from the file is not new.
    have origin := origin_of_parse_eq_ok (ofText_eq_ok_iff.mp (Prod.mk.inj had).1)
    rw [generated] at origin
    cases origin
  next =>
    obtain ⟨new, between, generating, had⟩ := exists_of_bind_eq_ok had
    obtain ⟨_, final, putting, returned⟩ := exists_of_bind_eq_ok had
    obtain ⟨same, rfl⟩ := Prod.mk.inj returned
    obtain rfl := Except.ok.inj same
    obtain ⟨origin, sameFiles⟩ := of_generate_eq_ok generating
    obtain rfl := KeyOrigin.generated.inj (generated.symm.trans origin)
    refine ⟨rfl, PrivateFile.isPrivate_of_put isPlain_fileName ?_
      (Action.run_of_mapError_eq_ok putting)⟩
    rw [sameFiles]
    exact PrivateFile.status_of_lock (Action.run_of_mapError_eq_ok locking)
  next => cases (Prod.mk.inj had).1

theorem isPrivate_of_ofDirectoryOr
    (had : ofDirectoryOr explicit directory machine = (.ok key, after))
    (generated : key.origin = .generated path) :
    path = filePath directory ∧ PrivateFile.IsPrivate path after.files := by
  cases given : explicitKey? explicit machine.files with
  | some taken =>
      rw [run_ofDirectoryOr_of_explicitKey? given] at had
      obtain rfl := Except.ok.inj (Prod.mk.inj had).1
      rw [origin_of_explicitKey?_eq_some given] at generated
      cases generated
  | none =>
      rw [run_ofDirectoryOr_of_notGiven given] at had
      exact isPrivate_of_ofDirectory had generated

end MasterKey

/-- A new key of a key file provider is in a private file. -/
theorem KeyProvider.isPrivate_of_resolve
    {directory : Path}
    {explicit : Option Text}
    {key : MasterKey}
    {next : KeyProvider}
    (resolved : (file directory explicit).resolve machine = (.ok (key, next), after))
    (generated : key.origin = .generated path) :
    path = MasterKey.filePath directory ∧ PrivateFile.IsPrivate path after.files := by
  obtain ⟨new, between, had, returned⟩ := exists_of_bind_eq_ok resolved
  obtain ⟨same, rfl⟩ := Prod.mk.inj returned
  obtain ⟨rfl, -⟩ := Prod.mk.inj (Except.ok.inj same)
  exact MasterKey.isPrivate_of_ofDirectoryOr had generated

/-- The directory that is resolved to is private, if it is there. -/
theorem Directories.status_of_resolve
    {ε : Type}
    {requested : Option Path}
    {mode : Nat}
    (resolved : (resolve requested : Action ε Path) machine = (.ok path, after))
    (found : after.files.status path = .ok (.directory mode)) :
    after.files.status path = .ok (.directory privateMode) := by
  rw [run_resolve] at resolved
  split at resolved
  next created =>
    obtain ⟨same, rfl⟩ := Prod.mk.inj resolved
    rw [← Except.ok.inj same]
    exact status_of_createPrivate created
  next between _ =>
    -- The spare directory is resolved to, whether it can be made or not.
    obtain ⟨same, rfl⟩ := Prod.mk.inj resolved
    rw [Except.ok.inj same] at found ⊢
    cases created : createPrivate path between with
    | mk outcome final =>
        rw [created] at found
        cases outcome with
        | ok => exact status_of_createPrivate created
        | error failure =>
            -- Making it once more would fail as well, but not where it is there.
            obtain ⟨again, failedAgain⟩ := createPrivate_again_of_error created rfl
            obtain ⟨place, -, succeeded, -⟩ := run_createPrivate_of_directory found
            cases (Prod.mk.inj (failedAgain.symm.trans succeeded)).1

namespace FileStore

variable {store : FileStore} {identity : Identity} {settings : Settings} {codec : Codec}

/-- A store that is made from settings has resolved its directory, and no directory comes or goes
after that. -/
theorem exists_of_bootstrap_eq
    (started : bootstrap identity settings codec machine = (.ok store, after)) :
    ∃ between,
      (Directories.resolve settings.secretsDirectory : Action Seedless Path) machine =
        (.ok store.directory, between) ∧
      Guards between.files after.files ∧
      ChangesOnly (fun _ => True) between.files after.files := by
  obtain ⟨directory, between, resolved, started⟩ := exists_of_bind_eq_ok started
  obtain ⟨key, final, had, returned⟩ := exists_of_bind_eq_ok started
  obtain ⟨same, rfl⟩ := Prod.mk.inj returned
  obtain rfl := Except.ok.inj same
  have guards := ensures_substitute (MasterKey.guards_ofDirectoryOr settings.masterKey directory)
    between
  have asking : (MasterKey.ofDirectoryOr settings.masterKey directory).Ensures
      (ChangesOnly fun _ => True) := by
    intro machine
    have resolves := MasterKey.resolves_ofDirectoryOr settings.masterKey directory machine
    exact resolves.changes.mono fun _ _ => trivial
  have changes := ensures_substitute asking between
  rw [had] at guards changes
  exact ⟨between, resolved, guards, changes⟩

end FileStore
end Successes

/-! ## Runs -/

/-- What a program does with stores and providers of master keys. -/
inductive Errand
  | bootstrap (identity : Identity) (settings : Settings) (codec : Codec)
  | openWith (identity : Identity) (directory : Path) (provider : KeyProvider) (codec : Codec)
  | resolve (provider : KeyProvider)
  | call (request : Call)
  deriving DecidableEq, Repr

/-- Whatever becomes of a call, it guards every place. -/
theorem Call.guards_perform (call : Call) (machine : Machine) :
    Guards machine.files (call.perform machine).2.files := by
  obtain ⟨store, operation⟩ := call
  cases operation with
  | put secret => exact store.guards_put secret machine
  | get => exact store.guards_get machine
  | delete => exact store.guards_delete machine
  | isStored => exact .refl _

namespace Errand

/-- The machine after an errand, whether that has succeeded or not. -/
def perform (errand : Errand) (machine : Machine) : Machine :=
  match errand with
  | bootstrap identity settings codec => (FileStore.bootstrap identity settings codec machine).2
  | openWith identity directory provider codec =>
    (FileStore.openWith identity directory provider codec machine).2
  | resolve provider => (provider.resolve machine).2
  | call request => (request.perform machine).2

/-- The machine after one errand after the other. -/
def performAll : List Errand → Machine → Machine
  | [], machine => machine
  | errand :: rest, machine => performAll rest (errand.perform machine)

/-- An errand guards every place. -/
theorem guards_perform (errand : Errand) (machine : Machine) :
    Guards machine.files (errand.perform machine).files := by
  cases errand with
  | bootstrap identity settings codec =>
      exact FileStore.guards_bootstrap identity settings codec machine
  | openWith identity directory provider codec =>
      exact FileStore.guards_openWith identity directory provider codec machine
  | resolve provider => exact provider.guards_resolve machine
  | call request => exact request.guards_perform machine

theorem guards_performAll (errands : List Errand) (machine : Machine) :
    Guards machine.files (performAll errands machine).files := by
  induction errands generalizing machine with
  | nil => exact .refl _
  | cons errand rest inductionHypothesis =>
      exact (errand.guards_perform machine).trans (inductionHypothesis (errand.perform machine))

end Errand

namespace Machine

/-- There is a private file at a path, and whatever is done, no other file is ever there. -/
structure KeepsFilePrivate (machine : Machine) (path : Path) : Prop where
  there : ∃ content, machine.files.status path = .ok (.file PrivateFile.mode content)
  stays : ∀ (errands : List Errand) (mode : Nat) (content : Bytes),
    (Errand.performAll errands machine).files.status path = .ok (.file mode content) →
    mode = PrivateFile.mode

/-- There is a private directory at a path, and whatever is done, it stays there and private. -/
def KeepsDirectoryPrivate (machine : Machine) (path : Path) : Prop :=
  ∀ errands : List Errand,
    (Errand.performAll errands machine).files.status path =
      .ok (.directory Directories.privateMode)

variable {machine : Machine}

theorem keepsFilePrivate_of_status
    (found : ∃ content, machine.files.status path = .ok (.file PrivateFile.mode content)) :
    machine.KeepsFilePrivate path where
  there := found
  stays := by
    intro errands mode content foundAfter
    obtain ⟨old, found⟩ := found
    exact (Errand.guards_performAll errands machine).mode_of_status found foundAfter

theorem keepsDirectoryPrivate_of_status
    (found : machine.files.status path = .ok (.directory Directories.privateMode)) :
    machine.KeepsDirectoryPrivate path := by
  intro errands
  exact (Errand.guards_performAll errands machine).status_directory found

/-- A file and its lock are private, and they stay so. -/
structure KeepsPrivate (machine : Machine) (path : Path) : Prop where
  file : machine.KeepsFilePrivate path
  lock : machine.KeepsFilePrivate (PrivateFile.lockPath path)

theorem keepsPrivate_of_isPrivate
    (isPrivate : PrivateFile.IsPrivate path machine.files) :
    machine.KeepsPrivate path where
  file := keepsFilePrivate_of_status isPrivate.file
  lock := keepsFilePrivate_of_status isPrivate.lock

end Machine

section Successes

variable {after : Machine} {store : FileStore} {identity : Identity} {codec : Codec}

/-- The directory of a store that is opened is private and stays so. -/
theorem FileStore.keepsDirectoryPrivate_of_openWith
    {directory : Path}
    {provider next : KeyProvider}
    {machine : Machine}
    (opened : openWith identity directory provider codec machine = (.ok (store, next), after)) :
    after.KeepsDirectoryPrivate store.directory := by
  obtain ⟨between, key, created, resolved, rfl⟩ := exists_of_openWith_eq_ok opened
  have guards := provider.guards_resolve between
  rw [resolved] at guards
  apply Machine.keepsDirectoryPrivate_of_status
  exact guards.status_directory (Directories.status_of_createPrivate created)

section Bootstrap

variable {settings : Settings} {machine : Machine}

/-- If the directory that the settings ask for can be made, a store has that one. -/
theorem FileStore.directory_of_bootstrap
    (started : bootstrap identity settings codec machine = (.ok store, after))
    (made : (Directories.createPrivate
      (Directories.asked settings.secretsDirectory machine.environment) machine).1 = .ok ()) :
    store.directory = Directories.asked settings.secretsDirectory machine.environment ∧
      after.files.status store.directory = .ok (.directory Directories.privateMode) := by
  obtain ⟨between, resolved, guards, -⟩ := exists_of_bootstrap_eq started
  cases created : Directories.createPrivate
      (Directories.asked settings.secretsDirectory machine.environment) machine with
  | mk outcome final =>
      rw [created] at made
      obtain rfl : outcome = .ok () := made
      rw [Directories.run_resolve, created] at resolved
      obtain ⟨same, rfl⟩ := Prod.mk.inj resolved
      have isAsked := Except.ok.inj same
      refine ⟨isAsked.symm, guards.status_directory ?_⟩
      rw [← isAsked]
      exact Directories.status_of_createPrivate created

/-- The directory of a store that is made from settings is private and stays so, if it is there. -/
theorem FileStore.keepsDirectoryPrivate_of_bootstrap
    {mode : Nat}
    (started : bootstrap identity settings codec machine = (.ok store, after))
    (found : after.files.status store.directory = .ok (.directory mode)) :
    after.KeepsDirectoryPrivate store.directory := by
  obtain ⟨between, resolved, guards, changes⟩ := exists_of_bootstrap_eq started
  obtain ⟨old, foundBetween⟩ := status_directory_of_changes changes.symm found
  apply Machine.keepsDirectoryPrivate_of_status
  exact guards.status_directory (Directories.status_of_resolve resolved foundBetween)

end Bootstrap
end Successes

/-- Secrets, new key files and their locks are owner-only, and so is the directory of a store.

On every machine that any errands lead to from any other: a secret that is stored successfully is
private with its lock, and so is the file of a master key that is newly made, by a provider or for a
store that is opened or made from settings. The directory of a store that is opened is private. So
is that of a store made from settings, if it is there; it is there, and is the one asked for, if
that could be made. All this stays so whatever is done next. No errand leaves any file with other
permissions than it had or those of a private file.

This is about the states between errands. Within one, a new lock is an empty file that others may
open, for a single step (`PrivateFile.steps_of_newLock`). A temporary file is private from the
beginning. -/
theorem Errand.performAll_ownerOnly (errands : List Errand) (start : Machine) :
    (∀ (store : FileStore) (secret : Text) (after : Machine),
      store.put secret (performAll errands start) = (.ok (), after) →
      after.KeepsPrivate store.secretPath) ∧
    (∀ (directory path : Path) (explicit : Option Text) (key : MasterKey) (next : KeyProvider)
        (after : Machine),
      (KeyProvider.file directory explicit).resolve (performAll errands start) =
        (.ok (key, next), after) →
      key.origin = .generated path →
      path = MasterKey.filePath directory ∧ after.KeepsPrivate path) ∧
    (∀ (identity : Identity) (directory : Path) (provider next : KeyProvider) (codec : Codec)
        (store : FileStore) (after : Machine),
      FileStore.openWith identity directory provider codec (performAll errands start) =
        (.ok (store, next), after) →
      store.directory = directory ∧ after.KeepsDirectoryPrivate store.directory ∧
      ∀ (keyDirectory path : Path) (explicit : Option Text),
        provider = .file keyDirectory explicit → store.masterKey.origin = .generated path →
        path = MasterKey.filePath keyDirectory ∧ after.KeepsPrivate path) ∧
    (∀ (identity : Identity) (settings : Settings) (codec : Codec) (store : FileStore)
        (after : Machine),
      FileStore.bootstrap identity settings codec (performAll errands start) = (.ok store, after) →
      ((Directories.createPrivate
            (Directories.asked settings.secretsDirectory (performAll errands start).environment)
            (performAll errands start)).1 = .ok () →
        store.directory =
            Directories.asked settings.secretsDirectory (performAll errands start).environment ∧
          after.KeepsDirectoryPrivate store.directory) ∧
      (∀ mode, after.files.status store.directory = .ok (.directory mode) →
        after.KeepsDirectoryPrivate store.directory) ∧
      ∀ path, store.masterKey.origin = .generated path →
        path = MasterKey.filePath store.directory ∧ after.KeepsPrivate path) ∧
    ∀ (location : Location) (mode : Nat) (content : Bytes),
      (performAll errands start).files.find? location = some (.file mode content) →
      start.files.find? location = some (.file mode content) ∨ mode = PrivateFile.mode := by
  refine ⟨?_, ?_, ?_, ?_, ?_⟩
  · intro store secret after stored
    exact Machine.keepsPrivate_of_isPrivate (FileStore.isPrivate_of_put stored)
  · intro directory path explicit key next after resolved generated
    exact (KeyProvider.isPrivate_of_resolve resolved generated).imp_right
      Machine.keepsPrivate_of_isPrivate
  · intro identity directory provider next codec store after opened
    obtain ⟨between, key, -, resolved, rfl⟩ := FileStore.exists_of_openWith_eq_ok opened
    refine ⟨rfl, FileStore.keepsDirectoryPrivate_of_openWith opened, ?_⟩
    rintro keyDirectory path explicit rfl generated
    exact (KeyProvider.isPrivate_of_resolve resolved generated).imp_right
      Machine.keepsPrivate_of_isPrivate
  · intro identity settings codec store after started
    refine ⟨?_, ?_, ?_⟩
    · intro made
      obtain ⟨isAsked, found⟩ := FileStore.directory_of_bootstrap started made
      exact ⟨isAsked, Machine.keepsDirectoryPrivate_of_status found⟩
    · intro mode found
      exact FileStore.keepsDirectoryPrivate_of_bootstrap started found
    · intro path generated
      obtain ⟨between, -, had⟩ :=
        FileStore.exists_of_bootstrap_eq_ok started (by simp [generated])
      exact (MasterKey.isPrivate_of_ofDirectoryOr had generated).imp_right
        Machine.keepsPrivate_of_isPrivate
  · intro location mode content found
    have place := (guards_performAll errands start).places location
    rw [found] at place
    exact place.file_eq

namespace Errand

/-- A directory with a secret and its lock, which all may read, and random bytes for a key and a
few nonces. -/
def laxMachine : Machine where
  files := {
    entries := [(["s".toList], .directory 0o755),
      (["a_b.secret".toList, "s".toList], .file 0o644 [1]),
      (["a_b.secret.lock".toList, "s".toList], .file 0o666 [])],
    workingDirectory := [] }
  random := [.bytes (List.replicate 96 0x6B)]

/-- The making of a store, which makes a key. -/
def sampleBootstrap : Errand :=
  .bootstrap (Identity.ofLabels ['a'] ['b']) Session.sampleSettings {}

/-- All become private: the directory, the secret and its lock, and a new key file and its lock. -/
theorem performAll_ownerOnly_laxMachine :
    (sampleBootstrap.perform laxMachine).KeepsDirectoryPrivate "/s".toList ∧
    (sampleBootstrap.perform laxMachine).KeepsPrivate "/s/master.key".toList ∧
    ((KeyProvider.file "/s".toList none).resolve laxMachine).2.KeepsPrivate
      "/s/master.key".toList ∧
    (FileStore.openWith (Identity.ofLabels ['a'] ['b']) "/s".toList (.file "/s".toList none) {}
      laxMachine).2.KeepsDirectoryPrivate "/s".toList ∧
    (Session.sampleStore.put ['x'] (performAll [sampleBootstrap] laxMachine)).2.KeepsPrivate
      "/s/a_b.secret".toList := by
  obtain ⟨-, resolves, opens, starts, -⟩ := performAll_ownerOnly [] laxMachine
  obtain ⟨puts, -⟩ := performAll_ownerOnly [sampleBootstrap] laxMachine
  have started : FileStore.bootstrap (Identity.ofLabels ['a'] ['b']) Session.sampleSettings {}
      laxMachine = (.ok Session.sampleStore, sampleBootstrap.perform laxMachine) :=
    Prod.ext (by decide +kernel) rfl
  obtain ⟨asked, -, keyFile⟩ := starts _ _ _ _ _ started
  refine ⟨(asked (by decide +kernel)).2, (keyFile _ rfl).2, ?_, ?_, ?_⟩
  · have resolved : ((KeyProvider.file "/s".toList none).resolve laxMachine).1 =
        .ok (Session.sampleStore.masterKey, .file "/s".toList none) := by
      decide +kernel
    exact (resolves _ _ _ _ _ _ (Prod.ext resolved rfl) rfl).2
  · have opened : (FileStore.openWith (Identity.ofLabels ['a'] ['b']) "/s".toList
        (.file "/s".toList none) {} laxMachine).1 =
          .ok (Session.sampleStore, .file "/s".toList none) := by
      decide +kernel
    exact (opens _ _ _ _ _ _ _ (Prod.ext opened rfl)).2.1
  · have stored :
        (Session.sampleStore.put ['x'] (performAll [sampleBootstrap] laxMachine)).1 = .ok () := by
      decide +kernel
    have isPath : Session.sampleStore.secretPath = "/s/a_b.secret".toList := by decide
    rw [← isPath]
    apply puts _ ['x']
    rw [← stored, Prod.eta]

end Errand
end Lockbox
