import Lockbox.Proofs.Directories
import Lockbox.Proofs.MasterKey.Stability
import Lockbox.Proofs.Store.Steps

/-!
# Stores made from settings again

Once a store has been made from settings in the directory that they ask for, with a key that
outlives the process, the machine is settled: every store that is made from the settings has the
same directory and the same key (`settled_of_bootstrap`, `Settled.run_bootstrap`).
-/

namespace Lockbox

theorem Identity.fileName_ne_keyFileName (identity : Identity) :
    identity.fileName ≠ MasterKey.fileName := by
  intro same
  have last := identity.getLast?_fileName
  rw [same] at last
  exact absurd last (by decide)

namespace FileStore

open FileSystem

/-! ## Reading through changes -/

/-- What can be read stays readable as long as the secret is not touched. -/
theorem getOutcome_eq_ok_of_changes
    {store : FileStore}
    {touched : Location → Prop}
    {before after : FileSystem}
    {secret : Text}
    (changes : ChangesOnly touched before after)
    (apart : ∀ place, before.reach store.directory = .ok place →
      ¬ touched (store.identity.fileName :: place))
    (read : store.getOutcome before = .ok secret) :
    store.getOutcome after = .ok secret := by
  unfold getOutcome at read
  split at read
  next => cases read
  next node found =>
    split at read
    next => cases read
    next free =>
      have stillThere : after.status store.secretPath = .ok node := by
        apply changes.status_eq_ok _ found
        intro location located
        obtain ⟨place, reached, rfl⟩ := exists_place_of_locate located
        exact apart place reached
      rw [getOutcome, stillThere, PrivateFile.lockOutcome_of_changes changes free]
      exact read

/-! ## Runs of bootstrap -/

section Bootstrap

variable {identity : Identity} {settings : Settings} {codec : Codec}
  {machine between after : Machine}

theorem run_bootstrap_of_ok
    {directory : Path}
    {key : MasterKey}
    (resolved : (Directories.resolve settings.secretsDirectory : Action Seedless Path) machine =
      (.ok directory, between))
    (had : MasterKey.ofDirectoryOr settings.masterKey directory between = (.ok key, after)) :
    bootstrap identity settings codec machine =
      (.ok { directory := directory, identity := identity, masterKey := key, codec := codec },
        after) := by
  rw [bootstrap, run_bind_of_ok resolved, run_bind, Action.orElse, had]
  rfl

theorem origin_of_ephemeral
    {key : MasterKey}
    (made : MasterKey.ephemeral machine = (.ok key, after)) :
    key.origin = .ephemeral := by
  rw [MasterKey.ephemeral, MasterKey.run_generate] at made
  cases drawn : machine.random.draw 32 with
  | mk outcome rest =>
      rw [drawn] at made
      cases outcome with
      | none => cases (Prod.mk.inj made).1
      | some bytes => rw [← Except.ok.inj (Prod.mk.inj made).1]

theorem origin_of_lastResort
    {key : MasterKey}
    (made : lastResort machine = (.ok key, after)) :
    key.origin = .ephemeral := by
  unfold lastResort at made
  split at made
  next => rw [← Except.ok.inj (Prod.mk.inj made).1]
  next => cases (Prod.mk.inj made).1

/-- The key that takes the place of one that cannot be had does not outlive the process. -/
theorem origin_of_substitute
    {key : MasterKey}
    (made : Action.orElse MasterKey.ephemeral (fun (_ : KeyError) => lastResort) machine =
      (.ok key, after)) :
    key.origin = .ephemeral := by
  rw [Action.orElse] at made
  split at made
  next ephemeral =>
    rw [← Except.ok.inj (Prod.mk.inj made).1]
    exact origin_of_ephemeral ephemeral
  next => exact origin_of_lastResort made

/-- A store with a key that outlives the process has it from its directory or from the settings. -/
theorem exists_of_bootstrap_eq_ok
    {store : FileStore}
    (started : bootstrap identity settings codec machine = (.ok store, after))
    (lasting : store.masterKey.origin ≠ .ephemeral) :
    ∃ between,
      (Directories.resolve settings.secretsDirectory : Action Seedless Path) machine =
        (.ok store.directory, between) ∧
      MasterKey.ofDirectoryOr settings.masterKey store.directory between =
        (.ok store.masterKey, after) := by
  obtain ⟨directory, changed, resolved⟩ : ∃ directory changed,
      (Directories.resolve settings.secretsDirectory : Action Seedless Path) machine =
        (.ok directory, { machine with files := changed }) :=
    Directories.exists_files_of_resolve settings.secretsDirectory machine
  rw [bootstrap, run_bind_of_ok resolved, run_bind, Action.orElse] at started
  cases had : MasterKey.ofDirectoryOr settings.masterKey directory
      { machine with files := changed } with
  | mk outcome final =>
      rw [had] at started
      cases outcome with
      | ok key =>
          obtain ⟨same, rfl⟩ := Prod.mk.inj started
          obtain rfl := Except.ok.inj same
          exact ⟨_, resolved, had⟩
      | error failure =>
          dsimp only at started
          cases made : Action.orElse MasterKey.ephemeral (fun (_ : KeyError) => lastResort)
              final with
          | mk substitute afterwards =>
              rw [made] at started
              cases substitute with
              | error reason => cases (Prod.mk.inj started).1
              | ok key =>
                  obtain rfl := Except.ok.inj (Prod.mk.inj started).1
                  exact absurd (origin_of_substitute made) lasting

/-- A store that is opened has made its directory and resolved its key. -/
theorem exists_of_openWith_eq_ok
    {directory : Path}
    {provider next : KeyProvider}
    {store : FileStore}
    (opened : openWith identity directory provider codec machine = (.ok (store, next), after)) :
    ∃ made key,
      Directories.createPrivate directory machine = (.ok (), made) ∧
      provider.resolve made = (.ok (key, next), after) ∧
      store =
        { directory := directory, identity := identity, masterKey := key, codec := codec } := by
  rw [openWith] at opened
  obtain ⟨_, made, created, rest⟩ := exists_of_bind_eq_ok opened
  obtain ⟨⟨key, other⟩, final, resolved, ended⟩ := exists_of_bind_eq_ok rest
  obtain ⟨same, rfl⟩ := Prod.mk.inj ended
  obtain ⟨sameStore, rfl⟩ := Prod.mk.inj (Except.ok.inj same)
  exact ⟨made, key, Action.run_of_mapError_eq_ok created, Action.run_of_mapError_eq_ok resolved,
    sameStore.symm⟩

end Bootstrap

/-! ## Settled machines -/

/-- The directory that the settings ask for is there, and the key of the given store stays. -/
structure Rooted (settings : Settings) (first : FileStore) (machine : Machine) : Prop where
  isAsked : Directories.asked settings.secretsDirectory machine.environment = first.directory
  there : ∃ mode, machine.files.status first.directory = .ok (.directory mode)
  stays : MasterKey.Stays settings.masterKey first.directory first.masterKey.again machine.files
  apart : MasterKey.ExplicitApart settings.masterKey first.directory machine.files

theorem Rooted.of_changes
    {settings : Settings}
    {first : FileStore}
    {machine later : Machine}
    {touched : Location → Prop}
    (rooted : Rooted settings first machine)
    (sameEnvironment : later.environment = machine.environment)
    (changes : ChangesOnly touched machine.files later.files)
    (bounded : ∀ location, touched location →
      MasterKey.BesideKeyFile first.directory machine.files location) :
    Rooted settings first later where
  isAsked := by
    rw [sameEnvironment]
    exact rooted.isAsked
  there := by
    obtain ⟨mode, found⟩ := rooted.there
    exact status_directory_of_changes changes found
  stays := rooted.stays.of_changes changes rooted.apart bounded
  apart := rooted.apart.of_changes changes

/-- A machine on which every bootstrap from the settings has the directory and the key of the given
store: the directory is there and the key stays, or the directory can never be made and the key is
given explicitly. -/
inductive Settled (settings : Settings) (first : FileStore) (machine : Machine) : Prop
  | rooted (rooted : Rooted settings first machine)
  | stuck
      (stuck : Directories.Stuck settings.secretsDirectory first.directory machine)
      (placeless : machine.files.Placeless first.directory)
      (given : MasterKey.explicitKey? settings.masterKey machine.files =
        some first.masterKey.again)

/-- A directory in which a file can be located is there. -/
theorem status_of_locate_join
    {directory : Path}
    {name : Text}
    {files : FileSystem}
    {location : Location}
    (nonempty : directory ≠ [])
    (plain : Path.IsPlain name)
    (located : files.locate (Path.join directory name) = .ok location) :
    ∃ mode, files.status directory = .ok (.directory mode) := by
  obtain ⟨place, reached, -⟩ := exists_reach_of_locate_join plain located
  have checked := checkPath_of_locate located
  rw [Path.join_of_noSlash directory plain.noSlash] at checked
  apply status_of_reach _ reached
  split at checked
  next => exact checkPath_of_append nonempty checked
  next => exact checkPath_of_append nonempty checked

/-- A bootstrap with a key that outlives the process settles the machine, if it has got the
directory that is asked for and an explicit value leads to nothing there. -/
theorem settled_of_bootstrap
    {identity : Identity}
    {settings : Settings}
    {codec : Codec}
    {machine after : Machine}
    {first : FileStore}
    (started : bootstrap identity settings codec machine = (.ok first, after))
    (lasting : first.masterKey.origin ≠ .ephemeral)
    (isAsked : Directories.asked settings.secretsDirectory machine.environment = first.directory)
    (apart : MasterKey.ExplicitApart settings.masterKey first.directory after.files) :
    Settled settings first after := by
  obtain ⟨between, resolved, had⟩ := exists_of_bootstrap_eq_ok started lasting
  have resolves := MasterKey.resolves_ofDirectoryOr settings.masterKey first.directory between
  rw [had] at resolves
  have environment : after.environment = machine.environment :=
    resolves.environment_eq.trans (Directories.environment_of_resolve resolved)
  by_cases there : ∃ mode, between.files.status first.directory = .ok (.directory mode)
  · obtain ⟨mode, found⟩ := there
    obtain ⟨modeAfter, foundAfter⟩ := status_directory_of_changes resolves.changes found
    exact .rooted ⟨environment ▸ isAsked, ⟨modeAfter, foundAfter⟩,
      MasterKey.stays_of_resolves resolves apart, apart⟩
  · have stuck : Directories.Stuck settings.secretsDirectory first.directory between :=
      (Directories.directory_or_stuck isAsked resolved).resolve_left there
    have placeless : between.files.Placeless first.directory := by
      intro name location plain located
      exact there (status_of_locate_join (Directories.ne_nil_of_resolve resolved) plain located)
    obtain ⟨failure, lockedOut⟩ :=
      PrivateFile.exists_lockOutcome_eq_error MasterKey.isPlain_fileName placeless
    obtain ⟨given, rfl⟩ := resolves.explicitKey?_of_lockedOut lockedOut
    refine .stuck stuck placeless ?_
    rwa [MasterKey.again_eq_self (by simp [MasterKey.origin_of_explicitKey?_eq_some given])]

/-! ## Bootstrap on a settled machine -/

/-- What the stores of a directory could read before they can read after. -/
def KeepsReadable (directory : Path) (before after : FileSystem) : Prop :=
  ∀ (store : FileStore) (secret : Text), store.directory = directory →
    store.getOutcome before = .ok secret → store.getOutcome after = .ok secret

/-- What is done to a directory itself leaves its secrets readable. -/
theorem keepsReadable_of_place
    {directory : Path}
    {place : Location}
    {before after : FileSystem}
    (reached : before.reach directory = .ok place)
    (changes : ChangesOnly (· = place) before after) :
    KeepsReadable directory before after := by
  intro store secret sameDirectory read
  apply getOutcome_eq_ok_of_changes changes _ read
  intro other otherReached same
  rw [sameDirectory, reached] at otherReached
  rw [Except.ok.inj otherReached] at same
  exact List.cons_ne_self _ _ same

theorem KeepsReadable.trans
    {directory : Path}
    {before between after : FileSystem}
    (first : KeepsReadable directory before between)
    (second : KeepsReadable directory between after) :
    KeepsReadable directory before after :=
  fun store secret sameDirectory read =>
    second store secret sameDirectory (first store secret sameDirectory read)

section Again

variable {settings : Settings} {first : FileStore} {machine : Machine}

theorem Rooted.run_resolve
    (rooted : Rooted settings first machine) :
    ∃ changed,
      (Directories.resolve settings.secretsDirectory : Action Seedless Path) machine =
        (.ok first.directory, { machine with files := changed }) ∧
      Rooted settings first { machine with files := changed } ∧
      KeepsReadable first.directory machine.files changed := by
  obtain ⟨mode, found⟩ := rooted.there
  obtain ⟨place, reached, resolved, changes⟩ :=
    Directories.run_resolve_of_directory rooted.isAsked found
  have isDirectory : machine.files.requireDirectory place = .ok () := by
    obtain ⟨other, -, otherReached, isDirectory⟩ := exists_place_of_status found
    rwa [Except.ok.inj (reached.symm.trans otherReached)]
  refine ⟨_, resolved, rooted.of_changes rfl changes ?_, keepsReadable_of_place reached changes⟩
  rintro location rfl
  exact Or.inr isDirectory

theorem Rooted.run_ofDirectoryOr
    (rooted : Rooted settings first machine) :
    ∃ changed,
      MasterKey.ofDirectoryOr settings.masterKey first.directory machine =
        (.ok first.masterKey.again, { machine with files := changed }) ∧
      Rooted settings first { machine with files := changed } ∧
      KeepsReadable first.directory machine.files changed := by
  obtain ⟨changed, had, changes⟩ := MasterKey.Stays.run machine rooted.stays
  refine ⟨changed, had, rooted.of_changes rfl changes ?_, ?_⟩
  · intro location isLock
    obtain ⟨place, reached, rfl⟩ :=
      PrivateFile.exists_place_of_isLock MasterKey.isPlain_fileName isLock
    exact Or.inl ⟨_, place, reached, rfl, (PrivateFile.ne_lockName _).symm⟩
  · intro store secret _ read
    apply getOutcome_eq_ok_of_changes changes _ read
    rintro other - isLock
    obtain ⟨place, -, same⟩ :=
      PrivateFile.exists_place_of_isLock MasterKey.isPlain_fileName isLock
    exact Identity.fileName_ne_lockName _ _ (List.cons.inj same).1

/-- The store that a bootstrap from the settings makes on a settled machine. -/
def sibling (first : FileStore) (identity : Identity) (codec : Codec) : FileStore where
  directory := first.directory
  identity := identity
  masterKey := first.masterKey.again
  codec := codec

/-- Every bootstrap on a settled machine gives the directory and the key, draws no random bytes,
leaves the machine settled and every secret readable. -/
theorem Settled.run_bootstrap
    (settled : Settled settings first machine)
    (identity : Identity)
    (codec : Codec) :
    ∃ changed,
      bootstrap identity settings codec machine =
        (.ok (first.sibling identity codec), { machine with files := changed }) ∧
      Settled settings first { machine with files := changed } ∧
      KeepsReadable first.directory machine.files changed := by
  cases settled with
  | rooted rooted =>
      obtain ⟨between, resolved, rootedBetween, readableBetween⟩ := rooted.run_resolve
      obtain ⟨changed, had, rootedAfter, readableAfter⟩ := rootedBetween.run_ofDirectoryOr
      exact ⟨changed, run_bootstrap_of_ok resolved had, .rooted rootedAfter,
        readableBetween.trans readableAfter⟩
  | stuck stuck placeless given =>
      exact ⟨machine.files, run_bootstrap_of_ok (stuck _ machine rfl rfl)
        (MasterKey.run_ofDirectoryOr_of_explicitKey? given), .stuck stuck placeless given,
        fun _ _ _ read => read⟩

end Again

end FileStore
end Lockbox
