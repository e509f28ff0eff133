import Lockbox.Proofs.Store.Usable

/-!
# Stores of one directory

What is done through one store leaves the secret of another one alone as long as the labels of the
two do not clash. Where they clash, the two stores keep one secret between them.
-/

namespace Lockbox
namespace FileStore

open FileSystem

/-- A call that changes the secret of a store. -/
inductive Change
  | put (secret : Text)
  | delete
  deriving DecidableEq, Repr

/-- What a call does. -/
def Change.perform (store : FileStore) : Change → Action StoreError Unit
  | put secret => store.put secret
  | delete => store.delete

/-- The machine after one call after the other, whether they succeed or not. -/
def changeAll (store : FileStore) : List Change → Machine → Machine
  | [], machine => machine
  | change :: rest, machine => store.changeAll rest (change.perform store machine).2

/-! ## What calls touch -/

theorem changes_of_perform
    (store : FileStore)
    (change : Change)
    (machine : Machine) :
    ChangesOnly (store.MayTouch machine.files) machine.files
      (change.perform store machine).2.files := by
  cases change with
  | put secret =>
      obtain ⟨outcome, random, changed, ran, changes⟩ := run_put_changes store secret machine
      rw [Change.perform, ran]
      exact changes
  | delete =>
      obtain ⟨outcome, changed, ran, changes⟩ := run_delete_changes store machine
      rw [Change.perform, ran]
      exact changes

/-- Calls through a store touch its secret and its lock and nothing else. -/
theorem changes_of_changeAll
    (store : FileStore)
    (changes : List Change)
    (machine : Machine) :
    ChangesOnly (store.MayTouch machine.files) machine.files
      (store.changeAll changes machine).files := by
  induction changes generalizing machine with
  | nil => exact .refl _
  | cons change rest inductionHypothesis =>
      have first := changes_of_perform store change machine
      have others := inductionHypothesis (change.perform store machine).2
      rw [mayTouch_of_changes first] at others
      exact first.trans others

/-! ## What reading depends on -/

section Neighbours

variable {first second : FileStore} {before after : FileSystem}

theorem locate_of_changes
    (sameDirectory : second.directory = first.directory)
    (changes : ChangesOnly (first.MayTouch before) before after)
    {name : Text}
    (plain : Path.IsPlain name) :
    after.locate (Path.join second.directory name) =
      before.locate (Path.join second.directory name) := by
  have reached := reach_of_changes changes
  rw [← sameDirectory] at reached
  rw [locate_join after _ plain, locate_join before _ plain, reached]

/-- Where a name in the directory is neither that of the secret nor that of the lock, there is the
same after a change as before it. -/
theorem find?_of_changes
    (changes : ChangesOnly (first.MayTouch before) before after)
    {directory : Path}
    {name : Text}
    {location : Location}
    (plain : Path.IsPlain name)
    (noSecret : name ≠ first.identity.fileName)
    (noLock : name ≠ PrivateFile.lockName first.identity.fileName)
    (located : before.locate (Path.join directory name) = .ok location) :
    after.find? location = before.find? location := by
  obtain ⟨place, -, rfl⟩ := exists_reach_of_locate_join plain located
  exact changes.elsewhere _ (not_mayTouch noSecret noLock)

theorem getOutcome_of_changes
    (sameDirectory : second.directory = first.directory)
    (apart : second.identity.fileName ≠ first.identity.fileName)
    (changes : ChangesOnly (first.MayTouch before) before after) :
    second.getOutcome after = second.getOutcome before := by
  have plain := second.identity.isPlain_fileName
  have lockPlain := PrivateFile.isPlain_lockName plain
  have status : after.status second.secretPath = before.status second.secretPath := by
    rw [FileSystem.status, FileSystem.status, secretPath,
      locate_of_changes sameDirectory changes plain]
    cases located : before.locate (Path.join second.directory second.identity.fileName) with
    | error failure => rfl
    | ok location =>
        have kept := find?_of_changes changes plain apart
          (Identity.fileName_ne_lockName _ _) located
        simp only [kept]
  have lock : PrivateFile.lockOutcome after second.secretPath =
      PrivateFile.lockOutcome before second.secretPath := by
    rw [PrivateFile.lockOutcome, PrivateFile.lockOutcome, secretPath,
      PrivateFile.lockPath_join _ plain.noSlash, locate_of_changes sameDirectory changes lockPlain]
    cases located : before.locate (Path.join second.directory
        (PrivateFile.lockName second.identity.fileName)) with
    | error failure => rfl
    | ok location =>
        have kept := find?_of_changes changes lockPlain
          (Ne.symm (Identity.fileName_ne_lockName _ _))
          (fun same => apart (PrivateFile.lockName_injective same)) located
        simp only [kept]
  rw [getOutcome, getOutcome, status, lock]

/-- Two stores with one file are usable together. -/
theorem Usable.of_sameFile
    {files : FileSystem}
    {place : Location}
    (sameDirectory : second.directory = first.directory)
    (sameFile : second.identity.fileName = first.identity.fileName)
    (usable : first.Usable files place) :
    second.Usable files place := by
  have samePath : second.secretPath = first.secretPath := by
    rw [secretPath, secretPath, sameDirectory, sameFile]
  constructor
  · rw [sameDirectory]; exact usable.reached
  · rw [samePath]; exact usable.pathFits
  · rw [sameFile]; exact usable.nameFits
  · rw [sameFile]; exact usable.secretFree
  · rw [sameFile]; exact usable.lockFree

end Neighbours

/-! ## Isolation and its limit -/

/-- Calls through one store do not change what is read through another one in the same directory,
provided that the labels of the two do not clash. If they clash, what is put through the one is
read through the other. -/
theorem get_after_changes
    {first second : FileStore}
    (sameDirectory : second.directory = first.directory)
    (sameKey : second.masterKey.bytes = first.masterKey.bytes) :
    (¬ first.identity.Clashes second.identity →
      ∀ changes machine,
        (second.get (first.changeAll changes machine)).1 = (second.get machine).1) ∧
    (first.identity.Clashes second.identity →
      ∀ machine place secret nonce rest,
        first.Usable machine.files place →
        secret ≠ [] →
        machine.random.draw first.codec.algorithm.nonceLength = (some nonce, rest) →
        Codec.holdsPlaintext (Envelope.create first.codec.algorithm first.masterKey.cipherKey nonce
          (Utf8.encode secret)).toBytes = false →
        (second.get (first.changeAll [.put secret] machine)).1 = .ok secret) := by
  constructor
  · intro noClash changes machine
    have apart : second.identity.fileName ≠ first.identity.fileName := by
      intro same
      exact noClash (Identity.fileName_eq_iff.mp same.symm)
    obtain ⟨_, ranAfter, -⟩ := run_get second (first.changeAll changes machine)
    obtain ⟨_, ranBefore, -⟩ := run_get second machine
    rw [ranAfter, ranBefore]
    exact getOutcome_of_changes sameDirectory apart (changes_of_changeAll first changes machine)
  · intro clash machine place secret nonce rest usable nonempty drawn unmarked
    have sameFile := (Identity.fileName_eq_iff.mpr clash).symm
    obtain ⟨changed, ran, putChanges, found⟩ := run_put_of_usable usable nonempty drawn
    have secondUsable := Usable.of_sameFile sameDirectory sameFile (usable.of_changes putChanges)
    rw [changeAll, changeAll, Change.perform, ran]
    obtain ⟨_, ranGet, -⟩ := run_get second { machine with random := rest, files := changed }
    rw [ranGet]
    dsimp only
    rw [secondUsable.getOutcome, sameFile, found]
    exact openNode_of_sealed sameKey nonempty unmarked _

/-! ## Sample stores -/

theorem get_after_changes_samples :
    ((sample ['a'] ['c']).get
        ((sample ['a'] ['b']).changeAll [.put ['x'], .put [], .delete] freshMachine)).1 =
      ((sample ['a'] ['c']).get freshMachine).1 ∧
    ((sample ['a'] "b_c".toList).get
        ((sample "a_b".toList ['c']).changeAll [.put ['x']] freshMachine)).1 = .ok ['x'] := by
  have apart : ¬ (sample ['a'] ['b']).identity.Clashes (sample ['a'] ['c']).identity := by
    rw [← Identity.fileName_eq_iff]
    decide +kernel
  have clash : (sample "a_b".toList ['c']).identity.Clashes
      (sample ['a'] "b_c".toList).identity := by
    rw [← Identity.fileName_eq_iff]
    decide +kernel
  have usable : (sample "a_b".toList ['c']).Usable freshMachine.files ["s".toList] := by
    decide +kernel
  have drawn : freshMachine.random.draw Algorithm.xChaCha20Poly1305.nonceLength =
      (some ⟨List.replicate 24 0, rfl⟩, [.bytes []]) := by
    decide +kernel
  have unmarked : Codec.holdsPlaintext (Envelope.create .xChaCha20Poly1305
      (sample "a_b".toList ['c']).masterKey.cipherKey ⟨List.replicate 24 0, rfl⟩
      (Utf8.encode ['x'])).toBytes = false := by
    decide +kernel
  have isolated := get_after_changes
    (show (sample ['a'] ['c']).directory = (sample ['a'] ['b']).directory from rfl) rfl
  have shared := get_after_changes
    (show (sample ['a'] "b_c".toList).directory = (sample "a_b".toList ['c']).directory from rfl)
    rfl
  exact ⟨isolated.1 apart _ _, shared.2 clash _ _ _ _ _ usable (by decide) drawn unmarked⟩

/-- Different labels are not enough: what is put through one store is read through another. -/
theorem get_shared_between_samples :
    (sample "a_b".toList ['c']).identity.service.label ≠
        (sample ['a'] "b_c".toList).identity.service.label ∧
      ((sample ['a'] "b_c".toList).get freshMachine).1 =
        .error (.notFound (sample ['a'] "b_c".toList).secretPath) ∧
      ((sample ['a'] "b_c".toList).get
        ((sample "a_b".toList ['c']).changeAll [.put ['x']] freshMachine)).1 = .ok ['x'] := by
  decide +kernel

end FileStore
end Lockbox
