import Lockbox.Proofs.CommandLine.KeySource
import Lockbox.Proofs.CommandLine.SecretLine
import Lockbox.Proofs.Store.Survival

/-!
# What one process stores the next one prints

A store that has stored a secret is made again by the next process, with the same directory and the
same key, wherever the directory can be had again (`CommandLine.openStore_again`). So a secret that
has been stored from the standard input is printed as it is (`CommandLine.retrieve_after_store`).
-/

namespace Lockbox

open FileSystem

/-- A machine on which a process starts after another one, with the same variables: the files and
what the keyring keeps are as they have been left, and the keyring serves if it has served that
process. -/
structure Machine.NextProcess (before after later : Machine) : Prop where
  files : later.files = after.files
  environment : later.environment = before.environment
  entries : later.keyring.entries = after.keyring.entries
  serves : before.keyring.Serves → later.keyring.Serves

namespace Machine

/-- A machine on which the next process starts, without input and random bytes. The keyring meets it
as it has met the one before. -/
def restarted (before after : Machine) : Machine where
  files := after.files
  environment := before.environment
  keyring := { before.keyring with entries := after.keyring.entries }

theorem nextProcess_restarted (before after : Machine) :
    before.NextProcess after (before.restarted after) :=
  ⟨rfl, rfl, rfl, fun serves => ⟨serves.opens, serves.reads⟩⟩

end Machine

namespace FileStore

/-! ## After a secret has been stored -/

section Stored

variable {store : FileStore} {secret : Text} {ready after : Machine}

/-- What a successful storing leaves behind: no more than the secret and its lock have been touched,
and the secret can be read by every store with the same file and key. -/
theorem exists_of_put_eq_ok
    (stored : store.put secret ready = (.ok (), after))
    (unmarked : ∀ payload ∈ Call.payload? ⟨store, .put secret⟩ ready.random,
      Codec.holdsPlaintext payload = false) :
    ∃ random changed,
      after = { ready with random := random, files := changed } ∧
      ChangesOnly (store.MayTouch ready.files) ready.files changed ∧
      (∃ location, changed.locate store.secretPath = .ok location) ∧
      ∀ other : FileStore, other.directory = store.directory →
        other.identity = store.identity → other.masterKey.bytes = store.masterKey.bytes →
        other.getOutcome changed = .ok secret := by
  obtain ⟨outcome, random, changed, ran, puts⟩ := store.run_put secret ready
  rw [stored] at ran
  obtain ⟨rfl, rfl⟩ := Prod.mk.inj ran
  cases puts with
  | stored sealing free found spares =>
      have changes := changes_of_spares spares
      refine ⟨random, changed, rfl, changes, ?_, fun other sameDirectory sameIdentity sameKey =>
        getOutcome_of_sealed sameDirectory sameKey (congrArg Identity.fileName sameIdentity) sealing
          unmarked free changes found⟩
      cases located : changed.locate store.secretPath with
      | error failure => simp [status, located] at found
      | ok location => exact ⟨location, rfl⟩

/-- A directory with a secret is there. -/
theorem status_directory_of_locate
    {files : FileSystem}
    {location : Location}
    (nonempty : store.directory ≠ [])
    (located : files.locate store.secretPath = .ok location) :
    ∃ mode, files.status store.directory = .ok (.directory mode) :=
  status_of_locate_join nonempty store.identity.isPlain_fileName located

end Stored

/-! ## Stores with a key from their directory -/

section Bootstrap

variable {settings : Settings} {first : FileStore} {machine : Machine}

/-- The settings with the directory that a store has got. -/
def settingsAgain (settings : Settings) (first : FileStore) : Settings :=
  { settings with secretsDirectory := some first.directory }

/-- Once a secret has been stored, the directory is there and the key stays. -/
theorem rooted_of_put
    {identity : Identity}
    {codec : Codec}
    {ready after : Machine}
    {location : Location}
    (started : bootstrap identity settings codec machine = (.ok first, ready))
    (lasting : first.masterKey.origin ≠ .ephemeral)
    (changes : ChangesOnly (first.MayTouch ready.files) ready.files after.files)
    (located : after.files.locate first.secretPath = .ok location)
    (apart : MasterKey.ExplicitApart settings.masterKey first.directory after.files) :
    Rooted (settingsAgain settings first) first after := by
  obtain ⟨between, resolved, had⟩ := exists_of_bootstrap_eq_ok started lasting
  have resolves := MasterKey.resolves_ofDirectoryOr settings.masterKey first.directory between
  rw [had] at resolves
  have apartBefore := apart.of_changes changes.symm
  refine ⟨rfl, status_directory_of_locate (Directories.ne_nil_of_resolve resolved) located, ?_,
    apart⟩
  apply (MasterKey.stays_of_resolves resolves apartBefore).of_changes changes apartBefore
  rintro location ⟨place, reached, rfl | rfl⟩
  · exact Or.inl ⟨_, place, reached, rfl, Identity.fileName_ne_keyFileName _⟩
  · exact Or.inl ⟨_, place, reached, rfl, PrivateFile.lockName_ne_keyFileName _⟩

theorem Rooted.nextProcess
    {before after later : Machine}
    (rooted : Rooted (settingsAgain settings first) first after)
    (next : before.NextProcess after later) :
    Rooted (settingsAgain settings first) first later := by
  obtain ⟨-, there, stays, apart⟩ := rooted
  rw [← next.files] at there stays apart
  exact ⟨rfl, there, stays, apart⟩

/-- Where the directory is had again, so is the store. -/
theorem bootstrap_of_rooted
    (rooted : Rooted (settingsAgain settings first) first machine)
    (regained : Directories.Regained settings.secretsDirectory first.directory machine)
    (identity : Identity)
    (codec : Codec) :
    ∃ changed,
      bootstrap identity settings codec machine =
        (.ok (first.sibling identity codec), { machine with files := changed }) ∧
      KeepsReadable first.directory machine.files changed := by
  obtain ⟨mode, found⟩ := rooted.there
  have same : bootstrap identity settings codec machine =
      bootstrap identity (settingsAgain settings first) codec machine := by
    rw [bootstrap, bootstrap, run_bind, run_bind, Directories.resolve_of_regained regained found]
    rfl
  obtain ⟨changed, ran, -, readable⟩ := (Settled.rooted rooted).run_bootstrap identity codec
  exact ⟨changed, same.trans ran, readable⟩

end Bootstrap

/-! ## Stores with a key from the keyring -/

theorem run_openWith_of_ok
    {identity : Identity}
    {directory : Path}
    {name : KeyringName}
    {codec : Codec}
    {key : MasterKey}
    {machine made after : Machine}
    (created : Directories.createPrivate directory machine = (.ok (), made))
    (had : MasterKey.ofKeyring name made = (.ok key, after)) :
    openWith identity directory (.keyring name) codec machine =
      (.ok ({ directory := directory, identity := identity, masterKey := key, codec := codec },
        .keyring name), after) := by
  have resolved := KeyProvider.run_resolve_keyring name made
  rw [had] at resolved
  rw [openWith, run_bind_of_ok (Action.run_mapError_of_ok created),
    run_bind_of_ok (Action.run_mapError_of_ok resolved)]
  rfl

/-- Another process that finds the directory as it has been left, and the key in a keyring that
serves, opens the store again. -/
theorem run_openWith_again
    {name : KeyringName}
    {key : MasterKey}
    {directory : Path}
    {mode : Nat}
    {before after : Machine}
    (later : Machine)
    (had : MasterKey.ofKeyring name before = (.ok key, after))
    (serves : later.keyring.Serves)
    (same : later.keyring.find? name = after.keyring.find? name)
    (found : later.files.status directory = .ok (.directory mode))
    (identity : Identity)
    (codec : Codec) :
    ∃ changed,
      openWith identity directory (.keyring name) codec later =
        (.ok ({ directory := directory, identity := identity, masterKey := key, codec := codec },
          .keyring name),
          { later with files := changed, keyring := later.keyring.called.called }) ∧
      KeepsReadable directory later.files changed := by
  obtain ⟨place, reached, created, changes⟩ := Directories.run_createPrivate_of_directory found
  let between : Machine :=
    { later with files := later.files.insert place (.directory Directories.privateMode) }
  have hadAgain : MasterKey.ofKeyring name between =
      (.ok key, { between with keyring := between.keyring.called.called }) :=
    MasterKey.run_ofKeyring_again had serves same
  exact ⟨_, run_openWith_of_ok created hadAgain, keepsReadable_of_place reached changes⟩

/-- A store that is opened with the keyring has its directory and its key from there. -/
theorem exists_of_openWith_keyring_eq_ok
    {identity : Identity}
    {directory : Path}
    {name : KeyringName}
    {codec : Codec}
    {store : FileStore}
    {provider : KeyProvider}
    {machine after : Machine}
    (opened : openWith identity directory (.keyring name) codec machine =
      (.ok (store, provider), after)) :
    ∃ made key,
      Directories.createPrivate directory machine = (.ok (), made) ∧
      MasterKey.ofKeyring name made = (.ok key, after) ∧
      store =
        { directory := directory, identity := identity, masterKey := key, codec := codec } := by
  obtain ⟨made, key, created, resolved, isStore⟩ := exists_of_openWith_eq_ok opened
  exact ⟨made, key, created, (KeyProvider.of_resolve_keyring_eq_ok resolved).2, isStore⟩

end FileStore

namespace CommandLine

open FileStore

section OpenStore

variable {config : Config} {settings : Settings} {identity : Identity} {store : FileStore}
  {before ready after later : Machine} {location : Location}

/-- A store whose key comes from the keyring has its directory and its key from the machine, whose
keyring has served. -/
theorem exists_of_openStore_of_fromKeyring
    (fromKeyring : FromKeyring config settings)
    (opened : openStore config identity settings before = (.ok store, ready)) :
    before.keyring.Serves ∧ ∃ between made,
      (Directories.resolve settings.secretsDirectory : Action Failure Path) before =
        (.ok store.directory, between) ∧
      MasterKey.ofKeyring keyringName made = (.ok store.masterKey, ready) ∧
      store.identity = identity ∧ store.codec = config.codec := by
  rw [openStore_of_fromKeyring fromKeyring] at opened
  obtain ⟨directory, between, resolved, rest⟩ := exists_of_bind_eq_ok opened
  obtain ⟨⟨other, provider⟩, final, openedWith, ended⟩ := exists_of_bind_eq_ok rest
  obtain ⟨rfl, rfl⟩ : other = store ∧ final = ready :=
    ⟨Except.ok.inj (Prod.mk.inj ended).1, (Prod.mk.inj ended).2⟩
  obtain ⟨made, key, created, had, rfl⟩ :=
    exists_of_openWith_keyring_eq_ok (Action.run_of_mapError_eq_ok openedWith)
  have serves := MasterKey.serves_of_ofKeyring_eq_ok had
  rw [(Directories.ignoresKeyring_createPrivate _).keyring_eq created,
    (Directories.ignoresKeyring_resolve _).keyring_eq resolved] at serves
  exact ⟨serves, between, made, resolved, had, rfl, rfl⟩

/-- A store with its key from the keyring is opened again by the next process. -/
theorem openStore_again_of_fromKeyring
    (fromKeyring : FromKeyring config settings)
    (opened : openStore config identity settings before = (.ok store, ready))
    (sameKeyring : after.keyring = ready.keyring)
    (located : after.files.locate store.secretPath = .ok location)
    (next : before.NextProcess after later)
    (regained : Directories.Regained settings.secretsDirectory store.directory later) :
    ∃ final,
      openStore config identity settings later = (.ok store, final) ∧
      final.output = later.output ∧
      KeepsReadable store.directory later.files final.files := by
  obtain ⟨serves, _, _, resolved, had, sameIdentity, sameCodec⟩ :=
    exists_of_openStore_of_fromKeyring fromKeyring opened
  rw [← next.files] at located
  obtain ⟨mode, found⟩ :=
    status_directory_of_locate (Directories.ne_nil_of_resolve resolved) located
  obtain ⟨place, reached, resolvedAgain, changes⟩ :=
    Directories.run_resolve_of_regained regained found
  obtain ⟨modeAgain, foundAgain⟩ := status_directory_of_changes changes found
  let between : Machine :=
    { later with files := later.files.insert place (.directory Directories.privateMode) }
  have sameEntries := next.entries.trans (congrArg Keyring.entries sameKeyring)
  obtain ⟨changed, openedAgain, readable⟩ := run_openWith_again between had (next.serves serves)
    (congrArg (List.lookup keyringName) sameEntries) foundAgain store.identity store.codec
  refine ⟨{ later with files := changed, keyring := later.keyring.called.called }, ?_, rfl,
    (keepsReadable_of_place reached changes).trans readable⟩
  rw [openStore_of_fromKeyring fromKeyring, run_bind_of_ok resolvedAgain, ← sameIdentity,
    ← sameCodec, run_bind_of_ok (Action.run_mapError_of_ok openedAgain)]
  rfl

/-- A store with its key from elsewhere is opened again by the next process. -/
theorem openStore_again_of_not_fromKeyring
    (otherwise : ¬ FromKeyring config settings)
    (opened : openStore config identity settings before = (.ok store, ready))
    (lasting : store.masterKey.origin ≠ .ephemeral)
    (changes : ChangesOnly (store.MayTouch ready.files) ready.files after.files)
    (located : after.files.locate store.secretPath = .ok location)
    (apart : MasterKey.ExplicitApart settings.masterKey store.directory after.files)
    (next : before.NextProcess after later)
    (regained : Directories.Regained settings.secretsDirectory store.directory later) :
    ∃ changed,
      openStore config identity settings later =
        (.ok (store.sibling store.identity store.codec), { later with files := changed }) ∧
      KeepsReadable store.directory later.files changed := by
  rw [openStore_of_not_fromKeyring otherwise] at opened ⊢
  have started := Action.run_of_mapError_eq_ok opened
  obtain ⟨between, resolved, had⟩ := exists_of_bootstrap_eq_ok started lasting
  obtain ⟨same, -⟩ := Prod.mk.inj ((run_bootstrap_of_ok resolved had).symm.trans started)
  have rooted := (rooted_of_put started lasting changes located apart).nextProcess next
  obtain ⟨changed, startedAgain, readable⟩ :=
    bootstrap_of_rooted rooted regained identity config.codec
  refine ⟨changed, ?_, readable⟩
  rw [Action.run_mapError_of_ok startedAgain, ← Except.ok.inj same]

/-- A store that has stored a secret is opened again by the next process, where the directory can be
had again: it has the same directory, identity and key. -/
theorem openStore_again
    (opened : openStore config identity settings before = (.ok store, ready))
    (lasting : store.masterKey.origin ≠ .ephemeral)
    (next : before.NextProcess after later)
    (sameKeyring : after.keyring = ready.keyring)
    (changes : ChangesOnly (store.MayTouch ready.files) ready.files after.files)
    (located : after.files.locate store.secretPath = .ok location)
    (apart : MasterKey.ExplicitApart settings.masterKey store.directory after.files)
    (regained : Directories.Regained settings.secretsDirectory store.directory later) :
    ∃ again final,
      openStore config identity settings later = (.ok again, final) ∧
      again.directory = store.directory ∧
      again.identity = store.identity ∧
      again.masterKey.bytes = store.masterKey.bytes ∧
      final.output = later.output ∧
      KeepsReadable store.directory later.files final.files := by
  by_cases fromKeyring : FromKeyring config settings
  · obtain ⟨final, openedAgain, sameOutput, readable⟩ := openStore_again_of_fromKeyring fromKeyring
      opened sameKeyring located next regained
    exact ⟨store, final, openedAgain, rfl, rfl, rfl, sameOutput, readable⟩
  · obtain ⟨changed, openedAgain, readable⟩ := openStore_again_of_not_fromKeyring fromKeyring opened
      lasting changes located apart next regained
    exact ⟨_, _, openedAgain, rfl, rfl, rfl, rfl, readable⟩

end OpenStore

/-! ## Storing and retrieving -/

section Commands

variable {config : Config} {target : Target} {secret : Text} {store : FileStore}
  {before ready after later : Machine}

/-- A run of the store command that succeeds opens a store and puts the secret there. -/
theorem exists_put_of_run_store
    (opened : storeOfTarget config target before = (.ok store, ready))
    (succeeded : execute config (.store target (some secret)) before = (.ok (), after)) :
    ∃ put, store.put secret ready = (.ok (), put) ∧
      after = { put with
        output := put.output ++ ("Stored ".toList ++ store.identity.display) ++ ['\n'] } := by
  simp only [execute] at succeeded
  obtain ⟨_, _, started, rest⟩ := exists_of_bind_eq_ok succeeded
  cases started
  rw [run_bind_of_ok opened] at rest
  obtain ⟨_, put, stored, printed⟩ := exists_of_bind_eq_ok rest
  exact ⟨put, Action.run_of_mapError_eq_ok stored, (Prod.mk.inj printed).2.symm⟩

/-- The retrieve command prints what the store reads. -/
theorem run_retrieve_of_get
    (opened : storeOfTarget config target before = (.ok store, ready))
    (read : store.get ready = (.ok secret, after)) :
    execute config (.retrieve target) before =
      (.ok (), { after with output := after.output ++ secret ++ ['\n'] }) := by
  simp only [execute]
  rw [run_bind_of_ok opened, run_bind_of_ok (Action.run_mapError_of_ok read)]
  rfl

/-- A run of the store command that stores the secret on the standard input: the key of its store
outlives the process, the marker does not occur in what it seals, and an explicit value leads to
nothing in its directory. -/
structure Deposits (config : Config) (target : Target) (secret : Text) (store : FileStore)
    (before ready after : Machine) : Prop where
  gives : Gives before.input secret
  opened : storeOfTarget config target before = (.ok store, ready)
  succeeded : execute config (.store target none) before = (.ok (), after)
  lasting : store.masterKey.origin ≠ .ephemeral
  unmarked : ∀ payload ∈ Call.payload? ⟨store, .put secret⟩ ready.random,
    Codec.holdsPlaintext payload = false
  apart : MasterKey.ExplicitApart (settingsOf config before.environment).masterKey store.directory
    after.files

/-- What has been stored is printed by the next process. -/
theorem Deposits.run_retrieve
    (deposits : Deposits config target secret store before ready after)
    (next : before.NextProcess after later)
    (regained : Directories.Regained (settingsOf config before.environment).secretsDirectory
      store.directory later) :
    ∃ final, execute config (.retrieve target) later = (.ok (), final) ∧
      final.output = later.output ++ secret ++ ['\n'] := by
  obtain ⟨gives, opened, succeeded, lasting, unmarked, apart⟩ := deposits
  rw [run_store_of_input, readSecretLine_of_gives gives] at succeeded
  obtain ⟨put, stored, rfl⟩ := exists_put_of_run_store opened succeeded
  obtain ⟨random, changed, rfl, changes, ⟨location, located⟩, reads⟩ :=
    exists_of_put_eq_ok stored unmarked
  obtain ⟨again, between, openedAgain, sameDirectory, sameIdentity, sameKey, sameOutput,
      readable⟩ :=
    openStore_again opened lasting next rfl changes located apart regained
  have readAgain : again.getOutcome between.files = .ok secret := by
    apply readable again secret sameDirectory
    rw [next.files]
    exact reads again sameDirectory sameIdentity sameKey
  obtain ⟨final, got, -⟩ := again.run_get between
  rw [readAgain] at got
  have opensAgain : storeOfTarget config target later = (.ok again, between) := by
    rw [storeOfTarget, storeOf, run_bind, Action.observe]
    dsimp only
    rw [next.environment]
    exact openedAgain
  refine ⟨_, run_retrieve_of_get opensAgain got, ?_⟩
  rw [sameOutput]

end Commands

/-- A secret on the first line of the standard input is read as it is, whatever ends the line and
whatever follows it, and a line without a secret is refused and nothing is done. If the store
command succeeds with the secret and a key that outlives the process, the marker does not occur in
what is sealed and an explicit value leads to nothing in the directory, then the retrieve command of
the next process prints the secret, as long as it has the directory: the one that is asked for, or
the spare one where the one that is asked for still cannot be made. -/
theorem retrieve_after_store
    (input : Bytes) :
    (∀ secret, Gives input secret → readSecretLine input = .ok secret) ∧
    (IsBlankLine input → readSecretLine input = .error .noSecretGiven ∧
      ∀ config target (machine : Machine), machine.input = input →
        execute config (.store target none) machine = (.error .noSecretGiven, machine)) ∧
    ∀ config target secret store (before ready after later : Machine), before.input = input →
      Deposits config target secret store before ready after →
      before.NextProcess after later →
      Directories.Regained (settingsOf config before.environment).secretsDirectory store.directory
        later →
      ∃ final, execute config (.retrieve target) later = (.ok (), final) ∧
        final.output = later.output ++ secret ++ ['\n'] := by
  refine ⟨fun secret => readSecretLine_of_gives, fun isBlankLine => ⟨?_, ?_⟩, ?_⟩
  · exact readSecretLine_of_isBlankLine isBlankLine
  · rintro config target machine rfl
    exact run_store_of_isBlankLine config target isBlankLine
  · intro config target secret store before ready after later _ deposits next regained
    exact deposits.run_retrieve next regained

/-! ## A sample secret -/

/-- The labels of the sample secret. -/
def sampleTarget : Target :=
  { service := ['a'], name := ['b'] }

/-- A machine without files that asks for a directory and gives the sample secret on its standard
input, with a key and one nonce. -/
def sampleMachine (directory : Path) : Machine where
  files := { entries := [], workingDirectory := [] }
  environment :=
    [("APP_SECRETS_DIR".toList, directory), ("TMPDIR".toList, "/x".toList),
      ("APP_MASTER_KEY".toList, List.replicate 32 'k')]
  random := [.bytes (List.replicate 24 0)]
  input := "s\n".toList.map fun char => char.toNat.toUInt8

/-- The machine after its store has been opened. -/
def openedMachine (machine : Machine) : Machine :=
  (storeOfTarget {} sampleTarget machine).2

/-- The machine after the store command. -/
def storedMachine (machine : Machine) : Machine :=
  (execute {} (.store sampleTarget none) machine).2

theorem gives_sampleMachine (directory : Path) :
    Gives (sampleMachine directory).input ['s'] where
  nonempty := by decide
  noLineFeed := by decide
  noCarriageReturn := by decide
  line := ⟨[0x0A], .lineFeed [], rfl⟩

/-- The sample key leads to nothing in a directory other than the working directory. -/
theorem apart_sampleMachine
    {directory requested : Path}
    {files : FileSystem}
    (place : Location)
    (reached : files.reach directory = .ok place)
    (elsewhere : place ≠ [])
    (located : files.locate (List.replicate 32 'k') = .ok [List.replicate 32 'k']) :
    MasterKey.ExplicitApart (settingsOf {} (sampleMachine requested).environment).masterKey
      directory files := by
  intro value other name isValue otherReached otherLocated
  obtain rfl : List.replicate 32 'k' = value := Option.some.inj isValue
  obtain rfl := Except.ok.inj (reached.symm.trans otherReached)
  obtain ⟨-, same⟩ := List.cons.inj (Except.ok.inj (located.symm.trans otherLocated))
  exact elsewhere same.symm

theorem deposits_sampleMachine :
    Deposits {} sampleTarget ['s'] (FileStore.sample ['a'] ['b']) (sampleMachine "/s".toList)
      (openedMachine (sampleMachine "/s".toList)) (storedMachine (sampleMachine "/s".toList)) where
  gives := gives_sampleMachine _
  opened := Prod.ext (by decide +kernel) rfl
  succeeded := Prod.ext (by decide +kernel) rfl
  lasting := by decide
  unmarked := by decide +kernel
  apart := apart_sampleMachine ["s".toList] (by decide +kernel) (by decide)
    (by decide +kernel)

theorem retrieve_after_store_sampleMachine :
    ∃ final,
      execute {} (.retrieve sampleTarget) ((sampleMachine "/s".toList).restarted
          (storedMachine (sampleMachine "/s".toList))) = (.ok (), final) ∧
        final.output = "s\n".toList := by
  obtain ⟨-, -, retrieves⟩ := retrieve_after_store (sampleMachine "/s".toList).input
  exact retrieves _ _ _ _ _ _ _ _ rfl deposits_sampleMachine (Machine.nextProcess_restarted _ _)
    (.isAsked (by decide +kernel))

/-- A store in the spare directory, since the one that is asked for could not be made. -/
def spareStore : FileStore :=
  { FileStore.sample ['a'] ['b'] with directory := "/x/sealbox-secrets".toList }

/-- Once the spare directory has been made, the directory that is asked for is there, and the
retrieve command of the next process looks for the secret in vain. -/
theorem not_retrieve_after_store_in_spareStore :
    let before := sampleMachine "/x/.".toList
    let later := before.restarted (storedMachine before)
    Deposits {} sampleTarget ['s'] spareStore before (openedMachine before) (storedMachine before) ∧
      before.NextProcess (storedMachine before) later ∧
      (execute {} (.retrieve sampleTarget) later).1 =
        .error (.store (.notFound "/x/./a_b.secret".toList)) := by
  refine ⟨⟨gives_sampleMachine _, Prod.ext (by decide +kernel) rfl,
    Prod.ext (by decide +kernel) rfl, by decide, by decide +kernel, ?_⟩,
    Machine.nextProcess_restarted _ _, by decide +kernel⟩
  exact apart_sampleMachine ["sealbox-secrets".toList, "x".toList] (by decide +kernel) (by decide)
    (by decide +kernel)

end CommandLine
end Lockbox
