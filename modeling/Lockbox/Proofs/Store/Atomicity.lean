import Lockbox.Proofs.Codec.Keys
import Lockbox.Proofs.Codec.RoundTrip
import Lockbox.Proofs.PrivateFile.Temporary
import Lockbox.Proofs.Store.Steps

/-!
# Failed operations leave a store as it was

An operation that fails spares every file: at most the lock of the secret comes to be, and it is
empty. One that succeeds spares all but the secret (`operations_spare`). Storing is taken apart
further here, down to the temporary file that becomes the secret (`run_putThrough`).
-/

namespace Lockbox
namespace FileStore

open FileSystem

/-! ## How storing fails -/

section Outcomes

variable (store : FileStore) (secret : Text) (machine : Machine)

/-- The outcomes of storing: an empty secret is refused, one for which no nonce can be drawn cannot
be sealed, and any other is stored unless a file is in the way. -/
theorem put_outcome_cases :
    (secret = [] ∧ (store.put secret machine).1 = .error .emptySecret) ∨
    (secret ≠ [] ∧ (machine.random.draw store.codec.algorithm.nonceLength).1 = none ∧
      (store.put secret machine).1 = .error (.encryption .noRandomness)) ∨
    (secret ≠ [] ∧ (machine.random.draw store.codec.algorithm.nonceLength).1 ≠ none ∧
      ((store.put secret machine).1 = .ok () ∨
        ∃ failure, (store.put secret machine).1 = .error (.file store.secretPath failure))) := by
  by_cases empty : secret = []
  · subst empty
    exact Or.inl ⟨rfl, rfl⟩
  have sealing := Codec.sealText_eq store.codec (Utf8.encode_ne_nil empty)
    store.masterKey.resolve_cipherKeyText machine.random
  cases drawn : machine.random.draw store.codec.algorithm.nonceLength with
  | mk outcome rest =>
      rw [drawn] at sealing
      cases outcome with
      | none => exact Or.inr (Or.inl ⟨empty, rfl, by rw [run_put_of_refused empty sealing]⟩)
      | some nonce =>
          obtain ⟨saved, changed, ran, saves⟩ := run_save store _ { machine with random := rest }
          refine Or.inr (Or.inr ⟨empty, by simp, ?_⟩)
          rw [run_put_of_sealed empty sealing, ran]
          cases saves with
          | failed _ => exact Or.inr ⟨_, rfl⟩
          | saved _ _ _ => exact Or.inl rfl

/-- The empty secret is refused as such, and no other is. -/
theorem put_eq_emptySecret_iff :
    (store.put secret machine).1 = .error .emptySecret ↔ secret = [] := by
  rcases put_outcome_cases store secret machine with
    ⟨empty, -⟩ | ⟨nonempty, -, outcome⟩ | ⟨nonempty, -, outcome | ⟨failure, outcome⟩⟩
  · simp [empty]
  · simp [nonempty, outcome]
  · simp [nonempty, outcome]
  · simp [nonempty, outcome]

/-- Sealing fails exactly when a secret is there and no nonce can be drawn. -/
theorem put_eq_encryption_iff
    (failure : CodecError) :
    (store.put secret machine).1 = .error (.encryption failure) ↔
      failure = .noRandomness ∧ secret ≠ [] ∧
        (machine.random.draw store.codec.algorithm.nonceLength).1 = none := by
  rcases put_outcome_cases store secret machine with
    ⟨empty, -⟩ | ⟨nonempty, undrawn, outcome⟩ |
      ⟨nonempty, drawn, outcome | ⟨reason, outcome⟩⟩
  · simp [empty]
  · simp [nonempty, undrawn, outcome, eq_comm]
  · simp [drawn, outcome]
  · simp [drawn, outcome]

end Outcomes

/-! ## Ways to put a secret in its place -/

/-- Storing, where the sealed secret is written to a temporary file in the directory and moved from
there. -/
def putThrough (store : FileStore) (temporary : Text) : Text → Action StoreError Unit :=
  store.putBy (PrivateFile.putThrough {} (Path.join store.directory temporary))

section Ways

variable {store : FileStore} {machine : Machine}

/-- Storing fails before it matters how a secret is put in its place, or else it is all up to that:
the lock has been taken, and a payload is to be put in place. -/
theorem putBy_cases (store : FileStore) (secret : Text) (machine : Machine) :
    (∃ failure after, ∀ place, store.putBy place secret machine = (.error failure, after)) ∨
    ∃ payload between,
      PrivateFile.lockOutcome machine.files store.secretPath = .ok () ∧
      PrivateFile.Spares store.secretPath (fun _ => False) machine.files between.files ∧
      ∀ place, store.putBy place secret machine =
        Action.mapError (.file store.secretPath) (place store.secretPath payload) between := by
  by_cases empty : secret = []
  · subst empty
    exact Or.inl ⟨_, machine, fun _ => rfl⟩
  simp only [putBy, if_neg (show ¬ secret.isEmpty = true by simpa using empty)]
  cases sealing : store.codec.sealText (Utf8.encode secret) store.masterKey.cipherKeyText
      machine.random with
  | mk outcome rest =>
      have drawn : Action.draw (store.codec.sealText (Utf8.encode secret)
          store.masterKey.cipherKeyText) machine = (outcome, { machine with random := rest }) := by
        rw [Action.draw, sealing]
      cases outcome with
      | error failure =>
          exact Or.inl ⟨_, { machine with random := rest }, fun _ =>
            run_bind_of_error (Action.run_mapError_of_error drawn)⟩
      | ok payload =>
          obtain ⟨locked, ran, spares⟩ :=
            PrivateFile.run_lock store.secretPath { machine with random := rest }
          cases free : PrivateFile.lockOutcome machine.files store.secretPath with
          | error failure =>
              rw [free] at ran
              exact Or.inl ⟨_, _, fun _ =>
                (run_bind_of_ok (Action.run_mapError_of_ok drawn)).trans
                  (run_bind_of_error (Action.run_mapError_of_error ran))⟩
          | ok =>
              rw [free] at ran
              exact Or.inr ⟨payload, _, rfl, spares, fun _ =>
                (run_bind_of_ok (Action.run_mapError_of_ok drawn)).trans
                  (run_bind_of_ok (Action.run_mapError_of_ok ran))⟩

/-- Under the lock a payload is put in place at once, as far as anyone can tell. -/
theorem run_put_of_locked
    {between : Machine}
    (free : PrivateFile.lockOutcome machine.files store.secretPath = .ok ())
    (spares : PrivateFile.Spares store.secretPath (fun _ => False) machine.files between.files)
    (payload : Bytes) :
    PrivateFile.put store.secretPath payload between =
      Action.changeFiles (FileSystem.replace · store.secretPath PrivateFile.mode payload) between :=
  PrivateFile.run_put store.identity.isPlain_fileName store.identity.ten_le_byteLength_lockName
    (PrivateFile.lockOutcome_of_changes spares.toChangesOnly free) payload

/-- Whatever free name the temporary file has, storing through it is storing. -/
theorem run_putThrough
    {temporary : Text}
    (isTemporary : PrivateFile.IsTemporaryName temporary)
    (free : ∀ place, machine.files.reach store.directory = .ok place →
      machine.files.find? (temporary :: place) = none)
    (secret : Text) :
    store.putThrough temporary secret machine = store.put secret machine := by
  rcases putBy_cases store secret machine with
    ⟨failure, after, fails⟩ | ⟨payload, between, lockFree, spares, ran⟩
  · rw [putThrough, put, fails, fails]
  have plain := store.identity.isPlain_fileName
  have noLowLine : '_' ∉ temporary := isTemporary.notMem (by decide) (by decide +kernel)
  obtain ⟨place, -, located⟩ := PrivateFile.exists_locate_of_lockOutcome plain lockFree
  obtain ⟨_, isLock, -⟩ := PrivateFile.lockOutcome_eq_ok_iff.mp lockFree
  obtain ⟨lockPlace, lockReached, rfl⟩ := exists_place_of_isLock isLock
  have temporaryLocated := isTemporary.locate_join plain
    store.identity.ten_le_byteLength_lockName isLock
  have stillFree : between.files.find? (temporary :: lockPlace) = none := by
    rw [spares.elsewhere _ ?_, free lockPlace lockReached]
    rintro (impossible | temporaryIsLock)
    · exact impossible
    · obtain ⟨_, -, same⟩ := exists_place_of_isLock temporaryIsLock
      apply noLowLine
      rw [(List.cons.inj same).1]
      exact List.mem_append_left _ (store.identity.lowLine_mem_fileName)
  have through : PrivateFile.putThrough {} (Path.join store.directory temporary) store.secretPath
      payload between = PrivateFile.put store.secretPath payload between :=
    (PrivateFile.run_putThrough_of_target (spares.locate_eq_ok temporaryLocated) stillFree
      (spares.locate_eq_ok located) payload).trans
      (run_put_of_locked lockFree spares payload).symm
  rw [putThrough, put, ran, ran, Action.mapError, Action.mapError, through]

/-- When the secret cannot be written or made private, storing spares everything, and otherwise the
faults make no difference to it. -/
theorem run_putWith
    (store : FileStore)
    (faults : PrivateFile.Faults)
    (secret : Text)
    (machine : Machine) :
    store.putBy (PrivateFile.putWith faults) secret machine = store.put secret machine ∨
      ∃ failure after, store.putBy (PrivateFile.putWith faults) secret machine =
          (.error failure, after) ∧
        PrivateFile.Spares store.secretPath (fun _ => False) machine.files after.files := by
  rcases putBy_cases store secret machine with
    ⟨failure, after, fails⟩ | ⟨payload, between, lockFree, spares, ran⟩
  · rw [put, fails, fails]
    exact Or.inl rfl
  · rw [put, ran, ran]
    rcases PrivateFile.putWith_cases faults store.secretPath payload between with
      ⟨failure, failed⟩ | ⟨changed, replaced, succeeded⟩
    · exact Or.inr ⟨_, between, Action.run_mapError_of_error failed, spares⟩
    · left
      rw [Action.run_mapError_of_ok succeeded, Action.run_mapError_of_ok
        ((run_put_of_locked lockFree spares payload).trans
          (Action.run_changeFiles_of_ok replaced))]

end Ways

/-! ## Operations -/

section Operations

variable (store : FileStore) (machine : Machine)

theorem put_spares (secret : Text) :
    (∀ failure, (store.put secret machine).1 = .error failure →
      PrivateFile.Spares store.secretPath (fun _ => False) machine.files
        (store.put secret machine).2.files) ∧
    ((store.put secret machine).1 = .ok () →
      PrivateFile.Spares store.secretPath (machine.files.locate store.secretPath = .ok ·)
        machine.files (store.put secret machine).2.files ∧
      ∃ payload,
        (store.codec.sealText (Utf8.encode secret) store.masterKey.cipherKeyText
          machine.random).1 = .ok payload ∧
        (store.put secret machine).2.files.status store.secretPath =
          .ok (.file PrivateFile.mode payload)) := by
  obtain ⟨outcome, random, changed, ran, puts⟩ := run_put store secret machine
  rw [ran]
  cases puts with
  | failed spares => exact ⟨fun _ _ => spares, nofun⟩
  | stored sealing _ found spares =>
      exact ⟨nofun, fun _ => ⟨spares, _, congrArg Prod.fst sealing, found⟩⟩

theorem delete_spares :
    (∀ failure, (store.delete machine).1 = .error failure →
      PrivateFile.Spares store.secretPath (fun _ => False) machine.files
        (store.delete machine).2.files) ∧
    ((store.delete machine).1 = .ok () →
      PrivateFile.Spares store.secretPath (machine.files.locate store.secretPath = .ok ·)
        machine.files (store.delete machine).2.files ∧
      (store.delete machine).2.files.pathExists store.secretPath = false) := by
  obtain ⟨outcome, changed, ran, deletes⟩ := run_delete store machine
  rw [ran]
  cases deletes with
  | failed spares => exact ⟨fun _ _ => spares, nofun⟩
  | deleted spares gone => exact ⟨nofun, fun _ => ⟨spares, gone⟩⟩

theorem get_spares :
    PrivateFile.Spares store.secretPath (fun _ => False) machine.files
      (store.get machine).2.files := by
  obtain ⟨changed, ran, spares⟩ := run_get store machine
  rw [ran]
  exact spares

end Operations

/-- Storing or deleting that fails spares every file. When it succeeds it spares all but the secret,
which is the sealed one or gone. Reading always spares every file. Nothing but the empty lock of the
secret comes to be, no temporary file either, whatever its name and whatever goes wrong with it.
Storing refuses the empty secret alone as empty, and sealing fails for lack of a nonce only. -/
theorem operations_spare
    (store : FileStore)
    (secret : Text)
    (machine : Machine) :
    (∀ failure, (store.put secret machine).1 = .error failure →
      PrivateFile.Spares store.secretPath (fun _ => False) machine.files
        (store.put secret machine).2.files) ∧
    ((store.put secret machine).1 = .ok () →
      PrivateFile.Spares store.secretPath (machine.files.locate store.secretPath = .ok ·)
        machine.files (store.put secret machine).2.files ∧
      ∃ payload,
        (store.codec.sealText (Utf8.encode secret) store.masterKey.cipherKeyText
          machine.random).1 = .ok payload ∧
        (store.put secret machine).2.files.status store.secretPath =
          .ok (.file PrivateFile.mode payload)) ∧
    (∀ failure, (store.delete machine).1 = .error failure →
      PrivateFile.Spares store.secretPath (fun _ => False) machine.files
        (store.delete machine).2.files) ∧
    ((store.delete machine).1 = .ok () →
      PrivateFile.Spares store.secretPath (machine.files.locate store.secretPath = .ok ·)
        machine.files (store.delete machine).2.files ∧
      (store.delete machine).2.files.pathExists store.secretPath = false) ∧
    PrivateFile.Spares store.secretPath (fun _ => False) machine.files
      (store.get machine).2.files ∧
    ((store.put secret machine).1 = .error .emptySecret ↔ secret = []) ∧
    (∀ failure, (store.put secret machine).1 = .error (.encryption failure) ↔
      failure = .noRandomness ∧ secret ≠ [] ∧
        (machine.random.draw store.codec.algorithm.nonceLength).1 = none) ∧
    (∀ temporary, PrivateFile.IsTemporaryName temporary →
      (∀ place, machine.files.reach store.directory = .ok place →
        machine.files.find? (temporary :: place) = none) →
      store.putThrough temporary secret machine = store.put secret machine) ∧
    (∀ faults, store.putBy (PrivateFile.putWith faults) secret machine = store.put secret machine ∨
      ∃ failure after, store.putBy (PrivateFile.putWith faults) secret machine =
          (.error failure, after) ∧
        PrivateFile.Spares store.secretPath (fun _ => False) machine.files after.files) := by
  have put := put_spares store machine secret
  have delete := delete_spares store machine
  exact ⟨put.1, put.2, delete.1, delete.2, get_spares store machine,
    put_eq_emptySecret_iff store secret machine, put_eq_encryption_iff store secret machine,
    fun temporary isTemporary free => run_putThrough isTemporary free secret,
    fun faults => run_putWith store faults secret machine⟩

/-- A directory where the secret of a sample store belongs, a lock with some content, and one
nonce. -/
def occupiedMachine : Machine where
  files :=
    { entries :=
        [(["s".toList], .directory 0o755), (["a_b.secret".toList, "s".toList], .directory 0o755),
          (["a_b.secret.lock".toList, "s".toList], .file 0o644 [0x6B])]
      workingDirectory := [] }
  random := [.bytes (List.replicate 24 0)]

theorem operations_spare_occupiedMachine :
    ((sample ['a'] ['b']).put ['x'] occupiedMachine).1 =
        .error (.file "/s/a_b.secret".toList .isDirectory) ∧
      ((sample ['a'] ['b']).put ['x'] occupiedMachine).2.files.content?
        ["a_b.secret.lock".toList, "s".toList] = some [0x6B] ∧
      (sample ['a'] ['b']).putThrough ".tmp000000".toList ['x'] occupiedMachine =
        (sample ['a'] ['b']).put ['x'] occupiedMachine := by
  obtain ⟨failing, -, -, -, -, -, -, throughTemporary, -⟩ :=
    operations_spare (sample ['a'] ['b']) ['x'] occupiedMachine
  have blocked : ((sample ['a'] ['b']).put ['x'] occupiedMachine).1 =
      .error (.file "/s/a_b.secret".toList .isDirectory) := by
    decide +kernel
  have spares := failing _ blocked
  have isTemporary : PrivateFile.IsTemporaryName ".tmp000000".toList := by
    refine ⟨List.replicate 6 '0', rfl, ?_, by decide⟩
    intro char member
    rw [List.eq_of_mem_replicate member]
    decide +kernel
  refine ⟨blocked, spares.contents _ _ not_false (by decide +kernel),
    throughTemporary _ isTemporary ?_⟩
  intro place reached
  have there : occupiedMachine.files.reach (sample ['a'] ['b']).directory = .ok ["s".toList] := by
    decide +kernel
  obtain rfl := Except.ok.inj (there.symm.trans reached)
  decide +kernel

end FileStore
end Lockbox
