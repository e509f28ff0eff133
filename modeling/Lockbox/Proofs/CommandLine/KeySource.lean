import Lockbox.CommandLine.Program
import Lockbox.Proofs.Directories.Names
import Lockbox.Proofs.MasterKey.Keyring
import Lockbox.Proofs.Store.KeyringFree

/-!
# Where the key of a store comes from

A store whose key is to come from the keyring gets it from there or is not made, and no file is made
in its place (`FileStore.run_openWith_keyring`). All other stores are made from settings. That has
nothing to do with the keyring, and it fails only where not even the generator of the process gets a
seed (`FileStore.bootstrap_eq_error_iff`).
-/

namespace Lockbox

/-- No key can be made: the generator of the process has no seed, and the random source fails at the
next two requests for the bytes of a key. -/
def Machine.Starved (machine : Machine) : Prop :=
  machine.generator.seed = none ∧
    (machine.random.draw 32).1 = none ∧ ((machine.random.draw 32).2.draw 32).1 = none

namespace MasterKey

variable {explicit : Option Text} {directory : Path} {machine after : Machine}

/-- Asking in vain for the key of a directory takes at most one failed request from the random
source. -/
theorem random_of_ofDirectoryOr_eq_error
    {failure : KeyError}
    (failed : ofDirectoryOr explicit directory machine = (.error failure, after)) :
    after.generator = machine.generator ∧
      (after.random = machine.random ∨ machine.random.draw 32 = (none, after.random)) := by
  cases given : explicitKey? explicit machine.files with
  | some key => cases (run_ofDirectoryOr_of_explicitKey? given).symm.trans failed
  | none =>
      rw [run_ofDirectoryOr_of_notGiven given] at failed
      cases lockable : PrivateFile.lockOutcome machine.files (filePath directory) with
      | error refusal =>
          obtain ⟨locked, ran, -⟩ := run_ofDirectory_of_lockedOut lockable
          cases ran.symm.trans failed
          exact ⟨rfl, Or.inl rfl⟩
      | ok =>
          cases found : keyNode? machine.files directory with
          | some node =>
              obtain ⟨locked, ran, -⟩ := run_ofDirectory_of_node lockable found
              obtain ⟨-, rfl⟩ := Prod.mk.inj (ran.symm.trans failed)
              exact ⟨rfl, Or.inl rfl⟩
          | none =>
              obtain ⟨place, locked, -, -, ran⟩ := run_ofDirectory_of_missing lockable found
              cases drawn : machine.random.draw 32 with
              | mk outcome rest =>
                  rw [drawn] at ran
                  cases outcome with
                  | none =>
                      cases ran.symm.trans failed
                      exact ⟨rfl, Or.inr rfl⟩
                  | some bytes => cases ran.symm.trans failed

end MasterKey

namespace FileStore

/-! ## Stores made from settings -/

/-- There is no key from a generator that has no seed and cannot get one. -/
theorem lastResort_eq_error_iff (machine : Machine) :
    (lastResort machine).1 = .error .seedless ↔
      machine.generator.seed = none ∧ (machine.random.draw 32).1 = none := by
  rw [lastResort, Generator.key]
  cases machine.generator.seed with
  | some seed => simp
  | none =>
      dsimp only
      cases machine.random.draw 32 with
      | mk outcome rest => cases outcome <;> simp

/-- There is no key for this process alone where none can be made. -/
theorem substitute_eq_error_iff (machine : Machine) :
    (Action.orElse MasterKey.ephemeral (fun (_ : KeyError) => lastResort) machine).1 =
        .error .seedless ↔
      machine.Starved := by
  rw [Action.orElse, MasterKey.ephemeral, MasterKey.run_generate, Machine.Starved]
  cases machine.random.draw 32 with
  | mk outcome between =>
      cases outcome with
      | some bytes => simp
      | none => simp [lastResort_eq_error_iff]

/-- There is no key for a store: the directory of the settings gives none, nor does an explicit
value, and after that none can be made. -/
def Keyless (settings : Settings) (machine : Machine) : Prop :=
  ∃ directory between failure after,
    (Directories.resolve settings.secretsDirectory : Action Seedless Path) machine =
      (.ok directory, between) ∧
    MasterKey.ofDirectoryOr settings.masterKey directory between = (.error failure, after) ∧
    after.Starved

section Keyless

variable {settings : Settings} {machine between after : Machine} {directory : Path}

theorem keyless_iff_of_asked
    {failure : KeyError}
    (resolved : (Directories.resolve settings.secretsDirectory : Action Seedless Path) machine =
      (.ok directory, between))
    (asked : MasterKey.ofDirectoryOr settings.masterKey directory between =
      (.error failure, after)) :
    Keyless settings machine ↔ after.Starved := by
  constructor
  · rintro ⟨_, _, _, _, resolvedAgain, askedAgain, starved⟩
    cases resolved.symm.trans resolvedAgain
    cases asked.symm.trans askedAgain
    exact starved
  · intro starved
    exact ⟨_, _, _, _, resolved, asked, starved⟩

theorem not_keyless_of_had
    {key : MasterKey}
    (resolved : (Directories.resolve settings.secretsDirectory : Action Seedless Path) machine =
      (.ok directory, between))
    (had : MasterKey.ofDirectoryOr settings.masterKey directory between = (.ok key, after)) :
    ¬ Keyless settings machine := by
  rintro ⟨_, _, _, _, resolvedAgain, asked, -⟩
  cases resolved.symm.trans resolvedAgain
  cases had.symm.trans asked

/-- Where there is no key for a store, the random source fails from the beginning. -/
theorem Keyless.starved
    (keyless : Keyless settings machine) :
    machine.Starved := by
  obtain ⟨directory, between, failure, after, resolved, asked, unseeded, first, second⟩ :=
    keyless
  obtain ⟨other, changed, ran⟩ : ∃ other changed,
      (Directories.resolve settings.secretsDirectory : Action Seedless Path) machine =
        (.ok other, { machine with files := changed }) :=
    Directories.exists_files_of_resolve settings.secretsDirectory machine
  cases ran.symm.trans resolved
  obtain ⟨sameGenerator, same | failed⟩ := MasterKey.random_of_ofDirectoryOr_eq_error asked
  · rw [same] at first second
    exact ⟨sameGenerator ▸ unseeded, first, second⟩
  · refine ⟨sameGenerator ▸ unseeded, ?_, ?_⟩
    · rw [failed]
    · rw [failed]
      exact first

end Keyless

/-- No store is made from settings exactly if there is no key for it. -/
theorem bootstrap_eq_error_iff
    (identity : Identity)
    (settings : Settings)
    (codec : Codec)
    (machine : Machine) :
    (bootstrap identity settings codec machine).1 = .error .seedless ↔
      Keyless settings machine := by
  obtain ⟨directory, changed, resolved⟩ : ∃ directory changed,
      (Directories.resolve settings.secretsDirectory : Action Seedless Path) machine =
        (.ok directory, { machine with files := changed }) :=
    Directories.exists_files_of_resolve settings.secretsDirectory machine
  rw [bootstrap, run_bind_of_ok resolved, run_bind, Action.orElse]
  cases asked : MasterKey.ofDirectoryOr settings.masterKey directory
      { machine with files := changed } with
  | mk outcome between =>
      cases outcome with
      | ok key => exact iff_of_false (by simp) (not_keyless_of_had resolved asked)
      | error failure =>
          have substitute := substitute_eq_error_iff between
          rw [keyless_iff_of_asked resolved asked]
          dsimp only
          cases made : Action.orElse MasterKey.ephemeral (fun (_ : KeyError) => lastResort)
              between with
          | mk outcome after =>
              rw [made] at substitute
              cases outcome with
              | ok key => simpa using substitute
              | error refusal => simpa using substitute

/-! ## Stores with a key from the keyring -/

/-- The master key of a store is what the keyring of a machine keeps under a name. -/
def KeyedBy (store : FileStore) (name : KeyringName) (machine : Machine) : Prop :=
  store.masterKey.origin = .keyring ∧
    ∃ text, machine.keyring.find? name = some (Utf8.encode text) ∧
      MasterKey.parse text .keyring = .ok store.masterKey

/-- A store that is opened with the keyring has its key from there, and no file is made for it. -/
theorem run_openWith_keyring
    (identity : Identity)
    (directory : Path)
    (name : KeyringName)
    (codec : Codec)
    (machine : Machine) :
    ∃ outcome after,
      openWith identity directory (.keyring name) codec machine = (outcome, after) ∧
      FileSystem.OnlyDirectories (Path.parts directory) machine.files after.files ∧
      ∀ store provider, outcome = .ok (store, provider) → store.KeyedBy name after := by
  have only := Directories.onlyDirectories_createPrivate directory machine
  cases made : Directories.createPrivate directory machine with
  | mk outcome between =>
      rw [made] at only
      cases outcome with
      | error failure =>
          exact ⟨_, _, run_bind_of_error (Action.run_mapError_of_error made), only, nofun⟩
      | ok =>
          have obtains := MasterKey.obtains_ofKeyring name between
          have sameFiles := obtains.files_eq
          have resolved := KeyProvider.run_resolve_keyring name between
          rw [openWith, run_bind_of_ok (Action.run_mapError_of_ok made)]
          cases had : MasterKey.ofKeyring name between with
          | mk result after =>
              rw [had] at obtains resolved sameFiles
              rw [← sameFiles] at only
              cases result with
              | error failure =>
                  exact ⟨_, _, run_bind_of_error (Action.run_mapError_of_error resolved), only,
                    nofun⟩
              | ok key =>
                  refine ⟨_, _, run_bind_of_ok (Action.run_mapError_of_ok resolved), only, ?_⟩
                  rintro store provider ⟨⟩
                  obtain ⟨text, found, parsed⟩ := obtains.exists_text
                  exact ⟨MasterKey.origin_of_parse_eq_ok parsed, text, found, parsed⟩

end FileStore

namespace CommandLine

open FileStore

section OpenStore

variable {config : Config} {settings : Settings}

/-- Whether the key of a store is to come from the keyring: the configuration says so, and no key is
given explicitly. -/
def FromKeyring (config : Config) (settings : Settings) : Prop :=
  config.keySource = .keyring ∧ settings.masterKey = none

theorem openStore_of_fromKeyring
    (fromKeyring : FromKeyring config settings)
    (identity : Identity) :
    openStore config identity settings = (do
      let directory ← Directories.resolve settings.secretsDirectory
      let (store, _) ← Action.mapError .keyringStore
        (FileStore.openWith identity directory (.keyring keyringName) config.codec)
      return store) := by
  rw [openStore, if_neg (by simp [fromKeyring.1, fromKeyring.2])]

theorem openStore_of_not_fromKeyring
    (otherwise : ¬ FromKeyring config settings)
    (identity : Identity) :
    openStore config identity settings =
      Action.mapError (fun _ => .seedless) (bootstrap identity settings config.codec) := by
  rw [openStore, if_pos]
  cases source : config.keySource with
  | file => exact Or.inl rfl
  | keyring =>
      right
      rw [Option.isSome_iff_ne_none]
      exact fun none => otherwise ⟨source, none⟩

/-- A store whose key is to come from the keyring. -/
theorem run_openStore_of_fromKeyring
    (fromKeyring : FromKeyring config settings)
    (identity : Identity)
    (machine : Machine) :
    ∃ outcome after,
      openStore config identity settings machine = (outcome, after) ∧
      FileSystem.OnlyDirectories
        (Directories.namesOf settings.secretsDirectory machine.environment)
        machine.files after.files ∧
      ((∃ failure, outcome = .error (.keyringStore failure)) ∨
        ∃ store, outcome = .ok store ∧ store.KeyedBy keyringName after) := by
  obtain ⟨directory, changed, resolved⟩ : ∃ directory changed,
      (Directories.resolve settings.secretsDirectory : Action Failure Path) machine =
        (.ok directory, { machine with files := changed }) :=
    Directories.exists_files_of_resolve settings.secretsDirectory machine
  have only := Directories.onlyDirectories_of_resolve resolved
  have subset := Directories.parts_subset_namesOf resolved
  obtain ⟨outcome, after, opened, onlyAfter, keyed⟩ := run_openWith_keyring identity directory
    keyringName config.codec { machine with files := changed }
  have names := only.trans (onlyAfter.mono subset)
  rw [openStore_of_fromKeyring fromKeyring, run_bind_of_ok resolved]
  cases outcome with
  | error failure =>
      exact ⟨_, _, run_bind_of_error (Action.run_mapError_of_error opened), names,
        Or.inl ⟨_, rfl⟩⟩
  | ok result =>
      exact ⟨_, _, run_bind_of_ok (Action.run_mapError_of_ok opened), names,
        Or.inr ⟨_, rfl, keyed _ _ rfl⟩⟩

/-- A store whose key is not to come from the keyring. -/
theorem run_openStore_of_not_fromKeyring
    (otherwise : ¬ FromKeyring config settings)
    (identity : Identity)
    (machine : Machine) :
    ∃ outcome after,
      openStore config identity settings machine = (outcome, after) ∧
      ((∃ store, outcome = .ok store) ∨ outcome = .error .seedless) ∧
      (outcome = .error .seedless ↔ Keyless settings machine) := by
  have keyless := bootstrap_eq_error_iff identity settings config.codec machine
  rw [openStore_of_not_fromKeyring otherwise]
  cases made : bootstrap identity settings config.codec machine with
  | mk outcome after =>
      rw [made] at keyless
      cases outcome with
      | ok store =>
          exact ⟨_, _, Action.run_mapError_of_ok made, Or.inl ⟨store, rfl⟩, by simpa using keyless⟩
      | error refusal =>
          exact ⟨_, _, Action.run_mapError_of_error made, Or.inr rfl, by simpa using keyless⟩

theorem ignoresKeyring_openStore
    (otherwise : ¬ FromKeyring config settings)
    (identity : Identity) :
    (openStore config identity settings).IgnoresKeyring := by
  rw [openStore_of_not_fromKeyring otherwise]
  exact .mapError _ (ignoresKeyring_bootstrap _ _ _)

end OpenStore

/-- If the key of a store is to come from the keyring, then it does or there is no store, and no
file is made, changed or removed: nothing is new but directories on the way to the one of the
secrets. In all other cases there is a store unless there is no key for it, for want of random
bytes, and the keyring is neither read nor written. -/
theorem openStore_keySource
    (config : Config)
    (identity : Identity)
    (settings : Settings)
    (machine : Machine) :
    ∃ outcome after,
      openStore config identity settings machine = (outcome, after) ∧
      (FromKeyring config settings →
        ((∃ failure, outcome = .error (.keyringStore failure)) ∨
          ∃ store, outcome = .ok store ∧ store.KeyedBy keyringName after) ∧
        FileSystem.OnlyDirectories
          (Directories.namesOf settings.secretsDirectory machine.environment)
          machine.files after.files) ∧
      (¬ FromKeyring config settings →
        ((∃ store, outcome = .ok store) ∨ outcome = .error .seedless) ∧
        (outcome = .error .seedless ↔ Keyless settings machine) ∧
        (Keyless settings machine → machine.Starved) ∧
        ∀ keyring, openStore config identity settings { machine with keyring := keyring } =
          (outcome, { after with keyring := keyring })) := by
  by_cases fromKeyring : FromKeyring config settings
  · obtain ⟨outcome, after, opened, only, keyed⟩ :=
      run_openStore_of_fromKeyring fromKeyring identity machine
    exact ⟨outcome, after, opened, fun _ => ⟨keyed, only⟩, fun otherwise =>
      absurd fromKeyring otherwise⟩
  · obtain ⟨outcome, after, opened, ended, keyless⟩ :=
      run_openStore_of_not_fromKeyring fromKeyring identity machine
    refine ⟨outcome, after, opened, fun contrary => absurd contrary fromKeyring, fun _ =>
      ⟨ended, keyless, Keyless.starved, fun keyring => ?_⟩⟩
    rw [ignoresKeyring_openStore fromKeyring identity machine keyring, opened]

/-! ## Samples -/

/-- A machine with a directory for secrets and the random bytes of one key. -/
def bareMachine : Machine where
  files := { entries := [(["s".toList], .directory 0o755)], workingDirectory := [] }
  random := [.bytes (List.replicate 32 7)]

/-- The settings of a store in that directory. -/
def bareSettings : Settings where
  secretsDirectory := some "/s".toList

theorem openStore_keySource_samples :
    (∃ store after,
      openStore { keySource := .keyring } (.ofLabels ['a'] ['b']) bareSettings bareMachine =
          (.ok store, after) ∧
        store.KeyedBy keyringName after ∧
        after.files.find? ["master.key".toList, "s".toList] = none) ∧
      ∃ store, (openStore {} (.ofLabels ['a'] ['b']) bareSettings bareMachine).1 = .ok store := by
  constructor
  · obtain ⟨outcome, after, opened, keyring, -⟩ := openStore_keySource
      { keySource := .keyring } (.ofLabels ['a'] ['b']) bareSettings bareMachine
    obtain ⟨ended, only⟩ := keyring ⟨rfl, rfl⟩
    have succeeded : (openStore { keySource := .keyring } (.ofLabels ['a'] ['b']) bareSettings
        bareMachine).1.toOption.isSome = true := by
      decide +kernel
    rw [opened] at succeeded
    rcases ended with ⟨failure, rfl⟩ | ⟨store, rfl, keyed⟩
    · cases succeeded
    · refine ⟨store, after, opened, keyed, ?_⟩
      by_contra found
      obtain ⟨name, member, called⟩ := only.named _ (by decide) found
      obtain rfl := Option.some.inj called
      exact absurd member (by decide)
  · obtain ⟨outcome, after, opened, -, others⟩ := openStore_keySource
      {} (.ofLabels ['a'] ['b']) bareSettings bareMachine
    obtain ⟨ended, keyless, starved, -⟩ := others (by simp [FromKeyring])
    rcases ended with ⟨store, rfl⟩ | failed
    · exact ⟨store, by rw [opened]⟩
    · have drawn : (bareMachine.random.draw 32).1 ≠ none := by decide +kernel
      exact absurd (starved (keyless.mp failed)).2.1 drawn

/-- Without random bytes and without a seed there is no store, although the keyring has nothing to
do with it. -/
theorem openStore_without_randomness :
    ¬ FromKeyring {} bareSettings ∧
      (openStore {} (.ofLabels ['a'] ['b']) bareSettings { bareMachine with random := [] }).1 =
        .error .seedless := by
  exact ⟨by simp [FromKeyring], by decide +kernel⟩

end CommandLine
end Lockbox
