import Lockbox.Proofs.Store.Bootstrap
import Lockbox.Proofs.Store.Refinement

/-!
# Secrets outlive their stores

After a store has been made from settings, any number of stores may be made from the same settings
and used in any order. A store that is made later still has the same directory and the same key,
and it reads every secret that has been stored and not deleted since (`bootstrap_again`).
-/

namespace Lockbox

open FileSystem

/-! ## Sessions -/

/-- What happens after the first bootstrap. -/
inductive Event
  /-- Another store is made from the settings. -/
  | start (identity : Identity) (codec : Codec)
  /-- An operation of one of the stores that have been made so far. -/
  | call (index : Nat) (operation : Operation)
  deriving DecidableEq, Repr

/-- The machine, the stores that have been made, and, by the names of their files, the secrets that
have been stored last and not been deleted since. -/
structure Session where
  machine : Machine
  stores : List FileStore
  kept : Text → Option Text

/-- The secrets that are kept after a call. Storing and deleting count when they succeed. -/
def Call.keep (call : Call) (answer : Answer) (kept : Text → Option Text) : Text → Option Text :=
  match call.operation, answer with
  | .put secret, .done (.ok ()) => Function.update kept call.fileName (some secret)
  | .delete, .done (.ok ()) => Function.update kept call.fileName none
  | _, _ => kept

/-- The session that begins with one store. -/
def Session.begin (first : FileStore) (machine : Machine) : Session where
  machine := machine
  stores := [first]
  kept := fun _ => none

namespace Event

/-- The session after an event. -/
def perform (settings : Settings) (event : Event) (session : Session) : Session :=
  match event with
  | start identity codec =>
    match FileStore.bootstrap identity settings codec session.machine with
    | (.ok store, after) => ⟨after, session.stores ++ [store], session.kept⟩
    | (.error _, after) => ⟨after, session.stores, session.kept⟩
  | call index operation =>
    match session.stores[index]? with
    | none => session
    | some store =>
      let call : Call := ⟨store, operation⟩
      ⟨(call.perform session.machine).2, session.stores,
        call.keep (call.perform session.machine).1 session.kept⟩

/-- The session after one event after the other. -/
def performAll (settings : Settings) : List Event → Session → Session
  | [], session => session
  | event :: rest, session => performAll settings rest (event.perform settings session)

/-- The payload that is sealed in an event, if one is. -/
def payload? (event : Event) (session : Session) : Option Bytes :=
  match event with
  | start _ _ => none
  | call index operation =>
    session.stores[index]?.bind fun store =>
      Call.payload? ⟨store, operation⟩ session.machine.random

/-- The payloads that are sealed in one event after the other. -/
def payloads (settings : Settings) : List Event → Session → List Bytes
  | [], _ => []
  | event :: rest, session =>
    (event.payload? session).toList ++ payloads settings rest (event.perform settings session)

end Event

/-! ## What a call preserves -/

theorem PrivateFile.lockName_ne_keyFileName (name : Text) : lockName name ≠ MasterKey.fileName := by
  intro same
  have last := getLast?_lockName name
  rw [same] at last
  exact absurd last (by decide)

namespace Call

section Calls

variable {call : Call} {machine : Machine}

/-- A call touches the secret and the lock of its store and draws random bytes; no more. -/
theorem run_perform (call : Call) (machine : Machine) :
    ∃ answer random changed,
      call.perform machine = (answer, { machine with random := random, files := changed }) ∧
      ChangesOnly (call.store.MayTouch machine.files) machine.files changed := by
  obtain ⟨store, operation⟩ := call
  cases operation with
  | put secret =>
      obtain ⟨outcome, random, changed, ran, changes⟩ := store.run_put_changes secret machine
      exact ⟨_, random, changed, by simp only [perform, ran]; rfl, changes⟩
  | get =>
      obtain ⟨changed, ran, spares⟩ := store.run_get machine
      exact ⟨_, machine.random, changed, by simp only [perform, ran]; rfl,
        FileStore.changes_of_spares_all spares⟩
  | delete =>
      obtain ⟨outcome, changed, ran, changes⟩ := store.run_delete_changes machine
      exact ⟨_, machine.random, changed, by simp only [perform, ran]; rfl, changes⟩
  | isStored => exact ⟨_, machine.random, machine.files, rfl, .refl _⟩

/-- Where no file has a place in the directory of a store, a call changes no files. -/
theorem run_perform_of_placeless
    (placeless : machine.files.Placeless call.store.directory) :
    ∃ answer random, call.perform machine = (answer, { machine with random := random }) := by
  obtain ⟨store, operation⟩ := call
  have plain := store.identity.isPlain_fileName
  have missing : machine.files.pathExists store.secretPath = false := by
    cases located : machine.files.locate store.secretPath with
    | error failure => simp only [pathExists, status, located]
    | ok location => exact absurd located (placeless _ _ plain)
  cases operation with
  | put secret =>
      obtain ⟨failure, lockedOut⟩ := PrivateFile.exists_lockOutcome_eq_error plain placeless
      obtain ⟨reason, random, ran⟩ := FileStore.run_put_of_lockedOut secret lockedOut
      exact ⟨_, random, by simp only [perform, ran]; rfl⟩
  | get =>
      have ran := FileStore.run_get_of_missing missing
      exact ⟨_, machine.random, by simp only [perform, ran]; rfl⟩
  | delete =>
      have ran := FileStore.run_delete_of_missing missing
      exact ⟨_, machine.random, by simp only [perform, ran]; rfl⟩
  | isStored => exact ⟨_, machine.random, rfl⟩

/-- Calls to stores of the directory leave the machine settled. -/
theorem settled_perform
    {settings : Settings}
    {first : FileStore}
    (settled : FileStore.Settled settings first machine)
    (sameDirectory : call.store.directory = first.directory) :
    FileStore.Settled settings first (call.perform machine).2 := by
  cases settled with
  | rooted rooted =>
      obtain ⟨answer, random, changed, ran, changes⟩ := call.run_perform machine
      rw [ran]
      refine .rooted (rooted.of_changes rfl changes ?_)
      rintro location ⟨place, reached, rfl | rfl⟩
      · exact Or.inl ⟨_, place, sameDirectory ▸ reached, rfl, Identity.fileName_ne_keyFileName _⟩
      · exact Or.inl ⟨_, place, sameDirectory ▸ reached, rfl,
          PrivateFile.lockName_ne_keyFileName _⟩
  | stuck stuck placeless given =>
      obtain ⟨answer, random, ran⟩ := run_perform_of_placeless (sameDirectory ▸ placeless)
      rw [ran]
      exact .stuck stuck placeless given

end Calls

end Call

/-! ## Kept secrets -/

/-- Every store with the directory and the key of the given one reads what is kept under the name of
its file. -/
def Keeps (first : FileStore) (files : FileSystem) (kept : Text → Option Text) : Prop :=
  ∀ store : FileStore, store.directory = first.directory →
    store.masterKey.bytes = first.masterKey.bytes →
    ∀ secret, kept store.identity.fileName = some secret → store.getOutcome files = .ok secret

namespace Keeps

variable {first store : FileStore} {files after : FileSystem} {kept : Text → Option Text}

theorem of_keepsReadable
    (keeps : Keeps first files kept)
    (readable : FileStore.KeepsReadable first.directory files after) :
    Keeps first after kept := by
  intro other sameDirectory sameKey secret isKept
  exact readable other secret sameDirectory (keeps other sameDirectory sameKey secret isKept)

/-- Taking the lock of a store leaves all secrets readable. -/
theorem of_lock_changes
    (keeps : Keeps first files kept)
    (changes : ChangesOnly (PrivateFile.IsLock files store.secretPath) files after) :
    Keeps first after kept := by
  apply keeps.of_keepsReadable
  intro other secret _ read
  apply FileStore.getOutcome_eq_ok_of_changes changes _ read
  rintro place - isLock
  obtain ⟨lockPlace, -, same⟩ := FileStore.exists_place_of_isLock isLock
  exact Identity.fileName_ne_lockName _ _ (List.cons.inj same).1

/-- Where one secret is changed, the others stay readable. -/
theorem update
    {value : Option Text}
    (keeps : Keeps first files kept)
    (changes : ChangesOnly (store.MayTouch files) files after)
    (readable : ∀ other : FileStore, other.directory = first.directory →
      other.masterKey.bytes = first.masterKey.bytes →
      other.identity.fileName = store.identity.fileName →
      ∀ secret, value = some secret → other.getOutcome after = .ok secret) :
    Keeps first after (Function.update kept store.identity.fileName value) := by
  intro other sameDirectory sameKey secret isKept
  by_cases sameFile : other.identity.fileName = store.identity.fileName
  · rw [sameFile, Function.update_self] at isKept
    exact readable other sameDirectory sameKey sameFile secret isKept
  · rw [Function.update_of_ne sameFile] at isKept
    apply FileStore.getOutcome_eq_ok_of_changes changes _
      (keeps other sameDirectory sameKey secret isKept)
    rintro place -
    exact FileStore.not_mayTouch sameFile (Identity.fileName_ne_lockName _ _)

end Keeps

/-- A secret that has just been stored is read by every store with the same file and key. -/
theorem FileStore.getOutcome_of_sealed
    {store other : FileStore}
    {secret : Text}
    {payload : Bytes}
    {random rest : RandomSource}
    {before after : FileSystem}
    {touched : Location → Prop}
    (sameDirectory : other.directory = store.directory)
    (sameKey : other.masterKey.bytes = store.masterKey.bytes)
    (sameFile : other.identity.fileName = store.identity.fileName)
    (sealing : store.codec.sealText (Utf8.encode secret) store.masterKey.cipherKeyText random =
      (.ok payload, rest))
    (unmarked : ∀ bytes ∈ Call.payload? ⟨store, .put secret⟩ random,
      Codec.holdsPlaintext bytes = false)
    (free : PrivateFile.lockOutcome before store.secretPath = .ok ())
    (changes : ChangesOnly touched before after)
    (found : after.status store.secretPath = .ok (.file PrivateFile.mode payload)) :
    other.getOutcome after = .ok secret := by
  have samePath : other.secretPath = store.secretPath := by
    rw [secretPath, secretPath, sameDirectory, sameFile]
  obtain ⟨nonempty, cipherKey, nonce, resolved, drawn, rfl⟩ :=
    Codec.exists_create_of_sealText_eq_ok sealing
  obtain rfl := Except.ok.inj (store.masterKey.resolve_cipherKeyText.symm.trans resolved)
  have someSecret : secret ≠ [] := by
    rintro rfl
    exact nonempty rfl
  have unmarkedPayload := unmarked (Envelope.create store.codec.algorithm
    store.masterKey.cipherKey nonce (Utf8.encode secret)).toBytes (by
      simp only [Call.payload?, if_neg someSecret, drawn, Option.map_some, Option.mem_some])
  rw [getOutcome, samePath, found, PrivateFile.lockOutcome_of_changes changes free]
  exact openNode_of_sealed sameKey someSecret unmarkedPayload _

/-- A call keeps the secrets, that which it stores included. -/
theorem Call.keeps_perform
    {call : Call}
    {first : FileStore}
    {machine : Machine}
    {kept : Text → Option Text}
    (sameDirectory : call.store.directory = first.directory)
    (sameKey : call.store.masterKey.bytes = first.masterKey.bytes)
    (unmarked : ∀ payload ∈ call.payload? machine.random, Codec.holdsPlaintext payload = false)
    (keeps : Keeps first machine.files kept) :
    Keeps first (call.perform machine).2.files (call.keep (call.perform machine).1 kept) := by
  obtain ⟨store, operation⟩ := call
  cases operation with
  | put secret =>
      obtain ⟨outcome, random, changed, ran, puts⟩ := store.run_put secret machine
      simp only [perform, ran]
      cases puts with
      | failed spares => exact keeps.of_lock_changes spares.lockChanges
      | stored sealing free found spares =>
          have changes := FileStore.changes_of_spares spares
          apply keeps.update changes
          intro other otherDirectory otherKey sameFile read same
          obtain rfl := Option.some.inj same
          exact FileStore.getOutcome_of_sealed (otherDirectory.trans sameDirectory.symm)
            (otherKey.trans sameKey.symm) sameFile sealing unmarked free changes found
  | get =>
      obtain ⟨changed, ran, spares⟩ := store.run_get machine
      simp only [perform, ran]
      exact keeps.of_lock_changes spares.lockChanges
  | delete =>
      obtain ⟨outcome, changed, ran, deletes⟩ := store.run_delete machine
      simp only [perform, ran]
      cases deletes with
      | failed spares => exact keeps.of_lock_changes spares.lockChanges
      | deleted spares _ =>
          apply keeps.update (FileStore.changes_of_spares spares)
          rintro other - - - secret nothing
          cases nothing
  | isStored => exact keeps

/-! ## Runs -/

namespace Session

/-- A session on a settled machine: all its stores have the directory and the key of the given one,
and all that is kept can be read. -/
structure Lasting (settings : Settings) (first : FileStore) (session : Session) : Prop where
  settled : FileStore.Settled settings first session.machine
  stores : ∀ store ∈ session.stores, store.directory = first.directory ∧
    store.masterKey.bytes = first.masterKey.bytes
  keeps : Keeps first session.machine.files session.kept

namespace Lasting

variable {settings : Settings} {first : FileStore} {session : Session}

theorem start
    (lasting : Lasting settings first session)
    (identity : Identity)
    (codec : Codec) :
    Lasting settings first ((Event.start identity codec).perform settings session) := by
  obtain ⟨changed, ran, settled, readable⟩ := lasting.settled.run_bootstrap identity codec
  simp only [Event.perform, ran]
  refine ⟨settled, ?_, lasting.keeps.of_keepsReadable readable⟩
  intro store member
  rcases List.mem_append.mp member with old | new
  · exact lasting.stores store old
  · rw [List.mem_singleton.mp new]
    exact ⟨rfl, rfl⟩

theorem call
    (lasting : Lasting settings first session)
    (index : Nat)
    (operation : Operation)
    (unmarked : ∀ payload ∈ (Event.call index operation).payload? session,
      Codec.holdsPlaintext payload = false) :
    Lasting settings first ((Event.call index operation).perform settings session) := by
  simp only [Event.perform]
  cases found : session.stores[index]? with
  | none => exact lasting
  | some store =>
      simp only [Event.payload?, found, Option.bind_some] at unmarked
      obtain ⟨sameDirectory, sameKey⟩ := lasting.stores store (List.mem_of_getElem? found)
      exact ⟨Call.settled_perform lasting.settled sameDirectory, lasting.stores,
        Call.keeps_perform sameDirectory sameKey unmarked lasting.keeps⟩

/-- A session stays so whatever happens, unless the marker occurs in a payload that is sealed. -/
theorem performAll
    (events : List Event)
    (lasting : Lasting settings first session)
    (unmarked : ∀ payload ∈ Event.payloads settings events session,
      Codec.holdsPlaintext payload = false) :
    Lasting settings first (Event.performAll settings events session) := by
  induction events generalizing session with
  | nil => exact lasting
  | cons event rest inductionHypothesis =>
      have here : ∀ payload ∈ event.payload? session, Codec.holdsPlaintext payload = false := by
        intro payload member
        exact unmarked payload (List.mem_append_left _ (Option.mem_toList.mpr member))
      have next : Lasting settings first (event.perform settings session) := by
        cases event with
        | start identity codec => exact lasting.start identity codec
        | call index operation => exact lasting.call index operation here
      exact inductionHypothesis next fun payload member =>
        unmarked payload (List.mem_append_right _ member)

end Lasting
end Session

/-- After a bootstrap that has got the directory that is asked for and a key that outlives the
process, whatever is done with stores from the same settings, a later bootstrap from them gets the
same directory and the same key, which it reads where the first one made it, and draws no random
bytes; its store reads what has been stored last under the name of its file and not been deleted
since. -/
theorem FileStore.bootstrap_again
    {settings : Settings}
    {identity : Identity}
    {codec : Codec}
    {machine after : Machine}
    {first : FileStore}
    (started : bootstrap identity settings codec machine = (.ok first, after))
    (isAsked : first.directory =
      settings.secretsDirectory.getD machine.environment.secretsDirectory)
    (lasting : first.masterKey.origin ≠ .ephemeral)
    (apart : MasterKey.ExplicitApart settings.masterKey first.directory after.files)
    (events : List Event)
    (unmarked : ∀ payload ∈ Event.payloads settings events (.begin first after),
      Codec.holdsPlaintext payload = false)
    (laterIdentity : Identity)
    (laterCodec : Codec) :
    ∃ later changed,
      bootstrap laterIdentity settings laterCodec
          (Event.performAll settings events (.begin first after)).machine =
        (.ok later, { (Event.performAll settings events (.begin first after)).machine with
          files := changed }) ∧
      later.identity = laterIdentity ∧
      later.directory = first.directory ∧
      later.masterKey.bytes = first.masterKey.bytes ∧
      (∀ path, first.masterKey.origin = .generated path → later.masterKey.origin = .keyFile path) ∧
      ((∀ path, first.masterKey.origin ≠ .generated path) →
        later.masterKey.origin = first.masterKey.origin) ∧
      ∀ secret,
        (Event.performAll settings events (.begin first after)).kept later.identity.fileName =
          some secret →
        (later.get { (Event.performAll settings events (.begin first after)).machine with
          files := changed }).1 = .ok secret := by
  have begun : Session.Lasting settings first (.begin first after) := by
    refine ⟨settled_of_bootstrap started lasting isAsked.symm apart, ?_, ?_⟩
    · intro store member
      rw [List.mem_singleton.mp member]
      exact ⟨rfl, rfl⟩
    · intro store _ _ secret nothing
      cases nothing
  have ended := begun.performAll events unmarked
  obtain ⟨changed, ran, -, readable⟩ := ended.settled.run_bootstrap laterIdentity laterCodec
  refine ⟨first.sibling laterIdentity laterCodec, changed, ran, rfl, rfl, rfl, ?_, ?_, ?_⟩
  · intro path generated
    change first.masterKey.origin.again = _
    rw [generated]
    rfl
  · intro old
    change first.masterKey.again.origin = _
    rw [MasterKey.again_eq_self old]
  · intro secret isKept
    obtain ⟨locked, read, -⟩ := run_get (first.sibling laterIdentity laterCodec)
      { (Event.performAll settings events (.begin first after)).machine with files := changed }
    rw [read]
    exact ended.keeps.of_keepsReadable readable (first.sibling laterIdentity laterCodec) rfl rfl
      secret isKept

/-! ## A sample session -/

namespace Session

/-- Settings with an explicit value that gives no key. -/
def sampleSettings : Settings where
  secretsDirectory := some "/s".toList
  masterKey := some "no key".toList

/-- A machine without files, and random bytes for a key and a few nonces. -/
def sampleMachine : Machine where
  files := { entries := [], workingDirectory := [] }
  random := [.bytes (List.replicate 96 0x6B)]

/-- The store of the first bootstrap, which makes a key. -/
def sampleStore : FileStore :=
  { FileStore.sample ['a'] ['b'] with
    masterKey :=
      { (FileStore.sample ['a'] ['b']).masterKey with
        origin := .generated "/s/master.key".toList } }

/-- The machine after the first bootstrap. -/
def sampleStarted : Machine :=
  (FileStore.bootstrap (Identity.ofLabels ['a'] ['b']) sampleSettings {} sampleMachine).2

/-- A second store is made, both stores get a secret, and one of them is deleted. -/
def sampleEvents : List Event :=
  [.start (Identity.ofLabels ['a'] ['c']) {}, .call 1 (.put ['y']), .call 0 (.put ['x']),
    .call 1 .delete]

theorem bootstrap_again_sampleEvents :
    ∃ later changed,
      FileStore.bootstrap (Identity.ofLabels ['a'] ['b']) sampleSettings {}
          (Event.performAll sampleSettings sampleEvents
            (.begin sampleStore sampleStarted)).machine =
        (.ok later, { (Event.performAll sampleSettings sampleEvents
          (.begin sampleStore sampleStarted)).machine with files := changed }) ∧
      later.masterKey.bytes = sampleStore.masterKey.bytes ∧
      later.masterKey.origin = .keyFile "/s/master.key".toList ∧
      (later.get { (Event.performAll sampleSettings sampleEvents
        (.begin sampleStore sampleStarted)).machine with files := changed }).1 = .ok ['x'] := by
  have started : FileStore.bootstrap (Identity.ofLabels ['a'] ['b']) sampleSettings {}
      sampleMachine = (.ok sampleStore, sampleStarted) :=
    Prod.ext (by decide +kernel) rfl
  have apart : MasterKey.ExplicitApart sampleSettings.masterKey sampleStore.directory
      sampleStarted.files := by
    intro value place name isValue reached located
    obtain rfl := Option.some.inj isValue
    have there : sampleStarted.files.reach sampleStore.directory = .ok ["s".toList] := by
      decide +kernel
    have elsewhere : sampleStarted.files.locate (Text.trim "no key".toList) =
        .ok ["no key".toList] := by
      decide +kernel
    rw [elsewhere] at located
    rw [there] at reached
    obtain rfl := Except.ok.inj reached
    cases (List.cons.inj (Except.ok.inj located)).2
  obtain ⟨later, changed, ran, sameIdentity, -, sameBytes, reread, -, reads⟩ :=
    FileStore.bootstrap_again started rfl (by decide) apart sampleEvents (by decide +kernel)
      (Identity.ofLabels ['a'] ['b']) {}
  refine ⟨later, changed, ran, sameBytes, reread _ rfl, reads ['x'] ?_⟩
  rw [sameIdentity]
  decide +kernel

end Session
end Lockbox
