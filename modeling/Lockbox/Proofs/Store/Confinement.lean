import Lockbox.Proofs.Store.Survival

/-!
# Secrets stay in their directory

Whatever its labels are, the file of an identity has a name that leads nowhere else
(`Identity.isConfined_fileName`) and that is none of the key file, of its lock and of the locks of
secrets. Calls to any stores touch the secrets and the locks of these stores alone
(`Call.changes_of_performAll`), so neither a key file nor anything outside their directories.
-/

namespace Lockbox

open FileSystem

/-- A name that stays in the directory in which it is used. -/
structure Path.IsConfined (name : Text) : Prop where
  noSeparator : ∀ char ∈ name, char ≠ '/' ∧ char ≠ '\\' ∧ char ≠ ':'
  noControl : ∀ char ∈ name, Text.isControl char = false
  notHere : name ≠ ".".toList
  notAbove : name ≠ "..".toList

namespace Identity

/-- A character that a label does not keep is replaced by a harmless one. -/
theorem sanitizeChar_harmless (char : Char) :
    (sanitizeChar char ≠ '/' ∧ sanitizeChar char ≠ '\\' ∧ sanitizeChar char ≠ ':') ∧
      Text.isControl (sanitizeChar char) = false := by
  unfold sanitizeChar
  split
  next => decide
  next kept =>
    simp only [Bool.or_eq_true, beq_iff_eq, not_or, Bool.not_eq_true] at kept
    obtain ⟨⟨⟨noSlash, noBackslash⟩, noColon⟩, noControl⟩ := kept
    exact ⟨⟨noSlash, noBackslash, noColon⟩, noControl⟩

theorem mem_fileName
    {identity : Identity}
    {char : Char}
    (member : char ∈ identity.fileName) :
    (∃ original, char = sanitizeChar original) ∨ char ∈ "_.secret".toList := by
  simp only [fileName, sanitize, List.mem_append, List.mem_map, List.mem_singleton] at member
  rcases member with ((⟨original, -, rfl⟩ | rfl) | ⟨original, -, rfl⟩) | suffix
  · exact Or.inl ⟨original, rfl⟩
  · exact Or.inr (by decide)
  · exact Or.inl ⟨original, rfl⟩
  · exact Or.inr (List.mem_cons_of_mem _ suffix)

/-- The file of an identity has a name that leads nowhere else. -/
theorem isConfined_fileName (identity : Identity) : Path.IsConfined identity.fileName := by
  have long := identity.isPlain_fileName.long
  have suffixHarmless : "_.secret".toList.all (fun char => decide
      ((char ≠ '/' ∧ char ≠ '\\' ∧ char ≠ ':') ∧ Text.isControl char = false)) = true := by
    decide
  have harmless : ∀ char ∈ identity.fileName,
      (char ≠ '/' ∧ char ≠ '\\' ∧ char ≠ ':') ∧ Text.isControl char = false := by
    intro char member
    rcases mem_fileName member with ⟨original, rfl⟩ | suffix
    · exact sanitizeChar_harmless original
    · exact of_decide_eq_true (List.all_eq_true.mp suffixHarmless char suffix)
  constructor
  · exact fun char member => (harmless char member).1
  · exact fun char member => (harmless char member).2
  · intro same
    rw [same] at long
    exact absurd long (by decide)
  · intro same
    rw [same] at long
    exact absurd long (by decide)

end Identity

namespace FileStore

variable {store : FileStore} {files before after : FileSystem} {location : Location}

/-- A change of files moves no directory, so what a store may touch stays the same. -/
theorem mayTouch_iff_of_changes
    {touched : Location → Prop}
    (changes : ChangesOnly touched before after) :
    store.MayTouch after location ↔ store.MayTouch before location := by
  constructor
  · rintro ⟨place, reached, named⟩
    exact ⟨place, changes.symm.reach_eq_ok reached, named⟩
  · rintro ⟨place, reached, named⟩
    exact ⟨place, changes.reach_eq_ok reached, named⟩

theorem not_mayTouch_keyFile (place : Location) :
    ¬ store.MayTouch files (MasterKey.fileName :: place) :=
  not_mayTouch (Ne.symm (Identity.fileName_ne_keyFileName _))
    (Ne.symm (PrivateFile.lockName_ne_keyFileName _))

theorem not_mayTouch_keyLock (place : Location) :
    ¬ store.MayTouch files (PrivateFile.lockName MasterKey.fileName :: place) :=
  not_mayTouch (Ne.symm (Identity.fileName_ne_lockName _ _))
    (fun same => Identity.fileName_ne_keyFileName _ (PrivateFile.lockName_injective same).symm)

end FileStore

namespace Call

/-- Calls touch the secrets and the locks of their stores and nothing else, whether they succeed or
not. -/
theorem changes_of_performAll
    (calls : List Call)
    (machine : Machine) :
    ChangesOnly (fun location => ∃ call ∈ calls, call.store.MayTouch machine.files location)
      machine.files (performAll calls machine).2.files := by
  induction calls generalizing machine with
  | nil => exact .refl _
  | cons call rest inductionHypothesis =>
      obtain ⟨answer, random, changed, ran, changes⟩ := call.run_perform machine
      have others := inductionHypothesis (call.perform machine).2
      rw [ran] at others
      rw [performAll, ran]
      refine (changes.mono ?_).trans (others.mono ?_)
      · intro location touched
        exact ⟨call, List.mem_cons_self .., touched⟩
      · rintro location ⟨other, member, touched⟩
        exact ⟨other, List.mem_cons_of_mem _ member,
          (FileStore.mayTouch_iff_of_changes changes).mp touched⟩

/-- The file of every identity is directly in the directory of its store, and it is none of the key
file, of the lock of the key file and of the locks of secrets. No run of calls changes a key file,
the lock of one, or anything that is not directly in the directory of one of the calls. -/
theorem performAll_confined (calls : List Call) (machine : Machine) :
    (∀ identity : Identity, Path.IsConfined identity.fileName) ∧
    (∀ store : FileStore,
      Path.parts store.secretPath = Path.leading store.directory ++ [store.identity.fileName] ∧
      ∀ (files : FileSystem) (location : Location), files.locate store.secretPath = .ok location →
        ∃ place, files.reach store.directory = .ok place ∧
          location = store.identity.fileName :: place) ∧
    (∀ first second : Identity,
      first.fileName ≠ MasterKey.fileName ∧
      first.fileName ≠ PrivateFile.lockName MasterKey.fileName ∧
      first.fileName ≠ PrivateFile.lockName second.fileName) ∧
    (∀ place,
      (performAll calls machine).2.files.find? (MasterKey.fileName :: place) =
        machine.files.find? (MasterKey.fileName :: place) ∧
      (performAll calls machine).2.files.find? (PrivateFile.lockName MasterKey.fileName :: place) =
        machine.files.find? (PrivateFile.lockName MasterKey.fileName :: place)) ∧
    ∀ location,
      (∀ call ∈ calls, ∀ name place,
        machine.files.reach call.store.directory = .ok place → location ≠ name :: place) →
      (performAll calls machine).2.files.find? location = machine.files.find? location := by
  have changes := changes_of_performAll calls machine
  refine ⟨Identity.isConfined_fileName, ?_, ?_, ?_, ?_⟩
  · intro store
    exact ⟨Path.parts_join _ store.identity.isPlain_fileName.noSlash,
      fun files location located => FileStore.exists_place_of_locate located⟩
  · intro first second
    exact ⟨first.fileName_ne_keyFileName, first.fileName_ne_lockName _,
      first.fileName_ne_lockName _⟩
  · intro place
    constructor
    · apply changes.elsewhere
      rintro ⟨call, -, touched⟩
      exact FileStore.not_mayTouch_keyFile place touched
    · apply changes.elsewhere
      rintro ⟨call, -, touched⟩
      exact FileStore.not_mayTouch_keyLock place touched
  · intro location outside
    apply changes.elsewhere
    rintro ⟨call, member, place, reached, same | same⟩
    · exact outside call member _ place reached same
    · exact outside call member _ place reached same

/-- Calls to stores whose labels try to leave the directory or to name the key file. -/
def strayingCalls : List Call :=
  [⟨FileStore.sample "..".toList "/../../t".toList, .put ['x']⟩,
    ⟨FileStore.sample "/t\x00".toList "..".toList, .get⟩,
    ⟨FileStore.sample "master.key".toList "master.key.lock".toList, .delete⟩]

/-- A directory with a key file, and a file outside it. -/
def guardedMachine : Machine where
  files := {
    entries := [(["s".toList], .directory 0o755),
      (["master.key".toList, "s".toList], .file 0o600 [1]),
      (["t".toList], .file 0o644 [2])],
    workingDirectory := [] }
  random := [.bytes (List.replicate 24 0)]

theorem performAll_confined_strayingCalls :
    (performAll strayingCalls guardedMachine).2.files.find? ["master.key".toList, "s".toList] =
      some (.file 0o600 [1]) ∧
    (performAll strayingCalls guardedMachine).2.files.find? ["t".toList] =
      some (.file 0o644 [2]) := by
  obtain ⟨-, -, -, keyFile, outside⟩ := performAll_confined strayingCalls guardedMachine
  have stays := outside ["t".toList] (by
    intro call member name place reached same
    obtain rfl : place = [] := (List.cons.inj same).2.symm
    revert call
    decide +kernel)
  exact ⟨(keyFile ["s".toList]).1, stays⟩

end Call
end Lockbox
