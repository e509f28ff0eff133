import Lockbox.Proofs.Store.Usable

/-!
# A directory of stores as a map

Any number of stores in one directory under one master key answer like a map from file names to
secrets. One call preserves the relation between the files and the map (`Call.agrees`), and so
does every run of calls.
-/

namespace Lockbox

open FileSystem

/-! ## Calls -/

/-- An operation of a store. -/
inductive Operation
  | put (secret : Text)
  | get
  | delete
  | isStored
  deriving DecidableEq, Repr

/-- An operation of one of many stores. -/
structure Call where
  store : FileStore
  operation : Operation
  deriving DecidableEq, Repr

/-- What a call answers. -/
inductive Answer
  | done (outcome : Except StoreError Unit)
  | secret (outcome : Except StoreError Text)
  | stored (there : Bool)
  deriving DecidableEq

namespace Call

/-- The file that a call is about. -/
def fileName (call : Call) : Text :=
  call.store.identity.fileName

/-- A call on a machine. -/
def perform (call : Call) (machine : Machine) : Answer × Machine :=
  match call.operation with
  | .put secret =>
    (.done (call.store.put secret machine).1, (call.store.put secret machine).2)
  | .get => (.secret (call.store.get machine).1, (call.store.get machine).2)
  | .delete => (.done (call.store.delete machine).1, (call.store.delete machine).2)
  | .isStored => (.stored (call.store.isStored machine.files), machine)

/-- The answers to one call after the other, and the machine after them. -/
def performAll : List Call → Machine → List Answer × Machine
  | [], machine => ([], machine)
  | call :: rest, machine =>
    ((call.perform machine).1 :: (performAll rest (call.perform machine).2).1,
      (performAll rest (call.perform machine).2).2)

end Call

/-! ## The map -/

/-- The secrets by the names of their files, and the random bytes to come. -/
structure Vault where
  secrets : Text → Option Text
  random : RandomSource

namespace Vault

/-- A vault without secrets. -/
def empty (random : RandomSource) : Vault where
  secrets := fun _ => none
  random := random

/-- The vault with something else under a name. -/
def set (vault : Vault) (name : Text) (kept : Option Text) : Vault where
  secrets := fun other => if other = name then kept else vault.secrets other
  random := vault.random

/-- The vault with other random bytes to come. -/
def withRandom (vault : Vault) (random : RandomSource) : Vault where
  secrets := vault.secrets
  random := random

@[simp] theorem secrets_set_self (vault : Vault) (name : Text) (kept : Option Text) :
    (vault.set name kept).secrets name = kept :=
  if_pos rfl

theorem secrets_set_of_ne
    (vault : Vault)
    {name other : Text}
    (different : other ≠ name)
    (kept : Option Text) :
    (vault.set name kept).secrets other = vault.secrets other :=
  if_neg different

end Vault

namespace Call

/-- What a call does to the map. -/
def specify (call : Call) (vault : Vault) : Answer × Vault :=
  match call.operation with
  | .put secret =>
    if secret = [] then (.done (.error .emptySecret), vault)
    else
      match vault.random.draw call.store.codec.algorithm.nonceLength with
      | (none, rest) => (.done (.error (.encryption .noRandomness)), vault.withRandom rest)
      | (some _, rest) => (.done (.ok ()), (vault.set call.fileName (some secret)).withRandom rest)
  | .get =>
    match vault.secrets call.fileName with
    | none => (.secret (.error (.notFound call.store.secretPath)), vault)
    | some secret => (.secret (.ok secret), vault)
  | .delete => (.done (.ok ()), vault.set call.fileName none)
  | .isStored => (.stored (vault.secrets call.fileName).isSome, vault)

/-- What one call after the other does to the map. -/
def specifyAll : List Call → Vault → List Answer × Vault
  | [], vault => ([], vault)
  | call :: rest, vault =>
    ((call.specify vault).1 :: (specifyAll rest (call.specify vault).2).1,
      (specifyAll rest (call.specify vault).2).2)

/-- The payload that a call seals, if it seals one. -/
def payload? (call : Call) (random : RandomSource) : Option Bytes :=
  match call.operation with
  | .put secret =>
    if secret = [] then none
    else
      (random.draw call.store.codec.algorithm.nonceLength).1.map fun nonce =>
        (Envelope.create call.store.codec.algorithm call.store.masterKey.cipherKey nonce
          (Utf8.encode secret)).toBytes
  | _ => none

/-- The payloads that are sealed by one call after the other. -/
def payloads : List Call → Vault → List Bytes
  | [], _ => []
  | call :: rest, vault =>
      (call.payload? vault.random).toList ++ payloads rest (call.specify vault).2

end Call

/-! ## The relation -/

/-- How the file of a store and the map belong together: what is in the place of the secret opens
to what the map has under its name. -/
structure Refines (masterKey : MasterKey) (place : Location) (files : FileSystem) (vault : Vault)
    (store : FileStore) : Prop where
  sameKey : store.masterKey.bytes = masterKey.bytes
  usable : store.Usable files place
  kept : (files.find? (store.identity.fileName :: place)).map store.openNode =
    (vault.secrets store.identity.fileName).map .ok

namespace Refines

variable {masterKey : MasterKey} {place : Location} {files after : FileSystem}
  {vault other : Vault} {store : FileStore}

/-- A store that keeps nothing belongs together with the empty map. -/
theorem of_fresh
    (sameKey : store.masterKey.bytes = masterKey.bytes)
    (usable : store.Usable files place)
    (fresh : files.pathExists store.secretPath = false)
    (random : RandomSource) :
    Refines masterKey place files (Vault.empty random) store := by
  rw [pathExists, usable.status] at fresh
  refine ⟨sameKey, usable, ?_⟩
  cases found : files.find? (store.identity.fileName :: place) with
  | none => rfl
  | some node =>
      rw [found] at fresh
      cases fresh

theorem of_sameSecrets
    (refines : Refines masterKey place files vault store)
    (same : other.secrets = vault.secrets) :
    Refines masterKey place files other store where
  sameKey := refines.sameKey
  usable := refines.usable
  kept := by rw [same]; exact refines.kept

/-- A change that puts the right thing in the place of one secret keeps the relation for every
store. -/
theorem of_changes
    {first : FileStore}
    {kept : Option Text}
    (refines : Refines masterKey place files vault store)
    (changes : ChangesOnly (first.MayTouch files) files after)
    (keptHere : (after.find? (first.identity.fileName :: place)).map store.openNode =
      kept.map .ok) :
    Refines masterKey place after (vault.set first.identity.fileName kept) store where
  sameKey := refines.sameKey
  usable := refines.usable.of_changes changes
  kept := by
    by_cases same : store.identity.fileName = first.identity.fileName
    · rw [same, Vault.secrets_set_self]
      exact keptHere
    · rw [Vault.secrets_set_of_ne _ same, ← refines.kept]
      congr 1
      apply changes.elsewhere
      exact FileStore.not_mayTouch same (Identity.fileName_ne_lockName _ _)

/-- Taking the lock of any store keeps the relation. -/
theorem of_lock_changes
    {first : FileStore}
    (changes : ChangesOnly (PrivateFile.IsLock files first.secretPath) files after)
    (refines : Refines masterKey place files vault store) :
    Refines masterKey place after vault store where
  sameKey := refines.sameKey
  usable := refines.usable.of_changes changes
  kept := by
    rw [← refines.kept]
    congr 1
    apply changes.elsewhere
    intro isLock
    obtain ⟨lockPlace, -, same⟩ := FileStore.exists_place_of_isLock isLock
    exact Identity.fileName_ne_lockName _ _ (List.cons.inj same).1

theorem getOutcome
    (refines : Refines masterKey place files vault store) :
    store.getOutcome files =
      match vault.secrets store.identity.fileName with
      | none => .error (.notFound store.secretPath)
      | some secret => .ok secret := by
  have kept := refines.kept
  rw [refines.usable.getOutcome]
  cases found : files.find? (store.identity.fileName :: place) with
  | none =>
      rw [found, Option.map_none] at kept
      rw [Option.map_eq_none_iff.mp kept.symm]
  | some node =>
      rw [found, Option.map_some] at kept
      obtain ⟨secret, secretKept, opens⟩ := Option.map_eq_some_iff.mp kept.symm
      rw [secretKept]
      exact opens.symm

theorem isStored
    (refines : Refines masterKey place files vault store) :
    store.isStored files = (vault.secrets store.identity.fileName).isSome := by
  have kept := congrArg Option.isSome refines.kept
  rw [Option.isSome_map, Option.isSome_map] at kept
  rw [← kept, FileStore.isStored, isFile, refines.usable.status]
  cases found : files.find? (store.identity.fileName :: place) with
  | none => rfl
  | some node =>
      cases node with
      | file mode content => rfl
      | directory mode =>
          exact absurd (requireDirectory_eq_ok_iff.mpr ⟨mode, found⟩) refines.usable.secretFree

end Refines

/-! ## Steps -/

namespace Call

/-- A call on a machine agrees with what it does to the map: the answers and the random bytes to
come are the same, and every store of the directory stays related. -/
structure Agrees (masterKey : MasterKey) (place : Location) (call : Call) (machine : Machine)
    (vault : Vault) : Prop where
  answer : (call.perform machine).1 = (call.specify vault).1
  random : (call.perform machine).2.random = (call.specify vault).2.random
  refines : ∀ store, Refines masterKey place machine.files vault store →
    Refines masterKey place (call.perform machine).2.files (call.specify vault).2 store

section Steps

variable {masterKey : MasterKey} {place : Location} {machine : Machine} {vault : Vault}
  {store : FileStore}

theorem agrees_of_eq
    {call : Call}
    {answer : Answer}
    {after : Machine}
    {next : Vault}
    (performed : call.perform machine = (answer, after))
    (specified : call.specify vault = (answer, next))
    (sameRandom : after.random = next.random)
    (refines : ∀ store, Refines masterKey place machine.files vault store →
      Refines masterKey place after.files next store) :
    Agrees masterKey place call machine vault where
  answer := by rw [performed, specified]
  random := by rw [performed, specified]; exact sameRandom
  refines := by rw [performed, specified]; exact refines

theorem agrees_put_of_noNonce
    {secret : Text}
    {rest : RandomSource}
    (sameRandom : machine.random = vault.random)
    (nonempty : secret ≠ [])
    (failed : vault.random.draw store.codec.algorithm.nonceLength = (none, rest)) :
    Agrees masterKey place ⟨store, .put secret⟩ machine vault := by
  have ran : store.put secret machine = _ :=
    FileStore.run_put_of_noNonce nonempty (by rw [sameRandom, failed])
  have performed : perform ⟨store, .put secret⟩ machine =
      (.done (.error (.encryption .noRandomness)), { machine with random := rest }) := by
    simp only [perform, ran]
  have specified : specify ⟨store, .put secret⟩ vault =
      (.done (.error (.encryption .noRandomness)), vault.withRandom rest) := by
    simp only [specify, if_neg nonempty, failed]
  apply agrees_of_eq performed specified rfl
  intro other refines
  exact refines.of_sameSecrets rfl

theorem agrees_put_of_nonce
    {secret : Text}
    {nonce : FixedBytes store.codec.algorithm.nonceLength}
    {rest : RandomSource}
    (sameRandom : machine.random = vault.random)
    (refinesStore : Refines masterKey place machine.files vault store)
    (nonempty : secret ≠ [])
    (drawn : vault.random.draw store.codec.algorithm.nonceLength = (some nonce, rest))
    (unmarked : Codec.holdsPlaintext (Envelope.create store.codec.algorithm
      store.masterKey.cipherKey nonce (Utf8.encode secret)).toBytes = false) :
    Agrees masterKey place ⟨store, .put secret⟩ machine vault := by
  obtain ⟨changed, ran, changes, found⟩ :=
    FileStore.run_put_of_usable refinesStore.usable nonempty (by rw [sameRandom, drawn])
  have performed : perform ⟨store, .put secret⟩ machine =
      (.done (.ok ()), { machine with random := rest, files := changed }) := by
    simp only [perform, ran]
  have specified : specify ⟨store, .put secret⟩ vault =
      (.done (.ok ()),
        (vault.set store.identity.fileName (some secret)).withRandom rest) := by
    simp only [specify, if_neg nonempty, drawn]
    rfl
  apply agrees_of_eq performed specified rfl
  intro other refines
  -- The other store may be bound to the same file: it opens the payload because the key is one.
  have sameKey := refines.sameKey.trans refinesStore.sameKey.symm
  have related : Refines masterKey place changed
      (vault.set store.identity.fileName (some secret)) other := by
    apply refines.of_changes changes
    rw [found, Option.map_some, Option.map_some,
      FileStore.openNode_of_sealed sameKey nonempty unmarked]
  exact related.of_sameSecrets rfl

theorem agrees_put
    {secret : Text}
    (sameRandom : machine.random = vault.random)
    (refinesStore : Refines masterKey place machine.files vault store)
    (unmarked : ∀ payload ∈ payload? ⟨store, .put secret⟩ vault.random,
      Codec.holdsPlaintext payload = false) :
    Agrees masterKey place ⟨store, .put secret⟩ machine vault := by
  by_cases empty : secret = []
  · subst empty
    exact agrees_of_eq rfl rfl sameRandom fun _ refines => refines
  cases drawn : vault.random.draw store.codec.algorithm.nonceLength with
  | mk outcome rest =>
      cases outcome with
      | none => exact agrees_put_of_noNonce sameRandom empty drawn
      | some nonce =>
          apply agrees_put_of_nonce sameRandom refinesStore empty drawn
          apply unmarked
          simp only [payload?, if_neg empty, drawn, Option.map_some, Option.mem_some]

theorem agrees_get
    (sameRandom : machine.random = vault.random)
    (refinesStore : Refines masterKey place machine.files vault store) :
    Agrees masterKey place ⟨store, .get⟩ machine vault := by
  obtain ⟨changed, ran, spares⟩ := FileStore.run_get store machine
  have performed : perform ⟨store, .get⟩ machine =
      (.secret (store.getOutcome machine.files), { machine with files := changed }) := by
    simp only [perform, ran]
  have specified : specify ⟨store, .get⟩ vault =
      (.secret (store.getOutcome machine.files), vault) := by
    rw [refinesStore.getOutcome]
    simp only [specify, fileName]
    cases vault.secrets store.identity.fileName <;> rfl
  apply agrees_of_eq performed specified sameRandom
  intro other refines
  exact refines.of_lock_changes spares.lockChanges

theorem agrees_delete
    (sameRandom : machine.random = vault.random)
    (refinesStore : Refines masterKey place machine.files vault store) :
    Agrees masterKey place ⟨store, .delete⟩ machine vault := by
  obtain ⟨changed, ran, changes, gone⟩ := FileStore.run_delete_of_usable refinesStore.usable
  have performed : perform ⟨store, .delete⟩ machine =
      (.done (.ok ()), { machine with files := changed }) := by
    simp only [perform, ran]
  have specified : specify ⟨store, .delete⟩ vault =
      (.done (.ok ()), vault.set store.identity.fileName none) := rfl
  apply agrees_of_eq performed specified sameRandom
  intro other refines
  apply refines.of_changes changes
  rw [gone]
  rfl

theorem agrees_isStored
    (sameRandom : machine.random = vault.random)
    (refinesStore : Refines masterKey place machine.files vault store) :
    Agrees masterKey place ⟨store, .isStored⟩ machine vault where
  answer := congrArg Answer.stored refinesStore.isStored
  random := sameRandom
  refines := fun _ refines => refines

/-- What one call on a machine does is what it does to the map. -/
theorem agrees
    (call : Call)
    (sameRandom : machine.random = vault.random)
    (refinesCall : Refines masterKey place machine.files vault call.store)
    (unmarked : ∀ payload ∈ call.payload? vault.random, Codec.holdsPlaintext payload = false) :
    Agrees masterKey place call machine vault := by
  obtain ⟨store, operation⟩ := call
  cases operation with
  | put secret => exact agrees_put sameRandom refinesCall unmarked
  | get => exact agrees_get sameRandom refinesCall
  | delete => exact agrees_delete sameRandom refinesCall
  | isStored => exact agrees_isStored sameRandom refinesCall

end Steps

/-! ## Runs -/

/-- A run of calls whose stores are related to the map answers like the map. -/
theorem performAll_of_refines
    {masterKey : MasterKey}
    {place : Location}
    (calls : List Call)
    {machine : Machine}
    {vault : Vault}
    (sameRandom : machine.random = vault.random)
    (refines : ∀ call ∈ calls, Refines masterKey place machine.files vault call.store)
    (unmarked : ∀ payload ∈ payloads calls vault, Codec.holdsPlaintext payload = false) :
    (performAll calls machine).1 = (specifyAll calls vault).1 := by
  induction calls generalizing machine vault with
  | nil => rfl
  | cons call rest inductionHypothesis =>
      have step := agrees call sameRandom (refines call (List.mem_cons_self ..)) (by
        intro payload member
        apply unmarked
        rw [payloads]
        exact List.mem_append_left _ (Option.mem_toList.mpr member))
      have others := inductionHypothesis step.random
        (fun other member => step.refines _ (refines other (List.mem_cons_of_mem _ member)))
        (fun payload member => unmarked payload (List.mem_append_right _ member))
      rw [performAll, specifyAll, step.answer, others]

/-- Calls to stores of one directory under one master key answer like a map from file names to
secrets that is empty at first. -/
theorem performAll_answers
    {masterKey : MasterKey}
    {place : Location}
    (calls : List Call)
    (machine : Machine)
    (sameKey : ∀ call ∈ calls, call.store.masterKey.bytes = masterKey.bytes)
    (usable : ∀ call ∈ calls, call.store.Usable machine.files place)
    (fresh : ∀ call ∈ calls, machine.files.pathExists call.store.secretPath = false)
    (unmarked : ∀ payload ∈ payloads calls (Vault.empty machine.random),
      Codec.holdsPlaintext payload = false) :
    (performAll calls machine).1 = (specifyAll calls (Vault.empty machine.random)).1 := by
  have refines : ∀ call ∈ calls,
      Refines masterKey place machine.files (Vault.empty machine.random) call.store := by
    intro call member
    have missing := fresh call member
    rw [pathExists, (usable call member).status] at missing
    refine ⟨sameKey call member, usable call member, ?_⟩
    cases found : machine.files.find? (call.store.identity.fileName :: place) with
    | none => rfl
    | some node =>
        rw [found] at missing
        cases missing
  exact performAll_of_refines calls rfl refines unmarked

/-- Calls to three stores, two of which have one file, with one nonce to draw. -/
def sampleCalls : List Call :=
  [⟨FileStore.sample ['a'] ['b'], .put ['x']⟩,
    ⟨FileStore.sample ['a'] "b_c".toList, .get⟩,
    ⟨FileStore.sample ['a'] ['b'], .put []⟩,
    ⟨{ FileStore.sample "a_b".toList ['c'] with codec := { algorithm := .aes256Gcm } }, .put ['y']⟩,
    ⟨FileStore.sample ['a'] ['b'], .get⟩,
    ⟨FileStore.sample ['a'] ['b'], .delete⟩,
    ⟨FileStore.sample ['a'] ['b'], .isStored⟩]

theorem performAll_answers_sampleCalls :
    (performAll sampleCalls FileStore.freshMachine).1 =
      [.done (.ok ()),
        .secret (.error (.notFound "/s/a_b_c.secret".toList)),
        .done (.error .emptySecret),
        .done (.error (.encryption .noRandomness)),
        .secret (.ok ['x']),
        .done (.ok ()),
        .stored false] := by
  have sameKey : ∀ call ∈ sampleCalls,
      call.store.masterKey.bytes = (FileStore.sample [] []).masterKey.bytes := by
    decide +kernel
  have usable : ∀ call ∈ sampleCalls,
      call.store.Usable FileStore.freshMachine.files ["s".toList] := by
    decide +kernel
  rw [performAll_answers sampleCalls FileStore.freshMachine sameKey usable (by decide +kernel)
    (by decide +kernel)]
  decide +kernel

end Call
end Lockbox
