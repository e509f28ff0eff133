import Lockbox.PrivateFile
import Lockbox.Proofs.FileSystem.Changes
import Lockbox.Proofs.Runs

/-!
# Locks and private files

Taking a lock fails as told by `lockOutcome`, and it spares all files: it makes the lock, or makes
it private and keeps its content (`run_lock`). The lock of a file in a directory has a plain name
that ends as no other file's does (`getLast?_lockName`), so that the use of one file touches no
other file of the directory (`not_mayTouch`).
-/

namespace Lockbox

/-! ## Changes of the files -/

namespace Action

theorem run_mapError_of_ok
    {ε ε' α : Type}
    {action : Action ε α}
    {retell : ε → ε'}
    {value : α}
    {machine after : Machine}
    (succeeded : action machine = (.ok value, after)) :
    mapError retell action machine = (.ok value, after) := by
  rw [mapError, succeeded]
  rfl

theorem run_mapError_of_error
    {ε ε' α : Type}
    {action : Action ε α}
    {retell : ε → ε'}
    {failure : ε}
    {machine after : Machine}
    (failed : action machine = (.error failure, after)) :
    mapError retell action machine = (.error (retell failure), after) := by
  rw [mapError, failed]
  rfl

theorem run_of_mapError_eq_ok
    {ε ε' α : Type}
    {action : Action ε α}
    {retell : ε → ε'}
    {value : α}
    {machine after : Machine}
    (succeeded : mapError retell action machine = (.ok value, after)) :
    action machine = (.ok value, after) := by
  cases ran : action machine with
  | mk outcome final =>
      cases outcome with
      | error failure =>
          rw [run_mapError_of_error ran] at succeeded
          cases (Prod.mk.inj succeeded).1
      | ok other =>
          rw [run_mapError_of_ok ran] at succeeded
          obtain ⟨same, rfl⟩ := Prod.mk.inj succeeded
          rw [Except.ok.inj same]

theorem run_changeFiles_of_ok
    {change : FileSystem → Except IoError FileSystem}
    {machine : Machine}
    {changed : FileSystem}
    (succeeded : change machine.files = .ok changed) :
    changeFiles change machine = (.ok (), { machine with files := changed }) := by
  rw [changeFiles, succeeded]

theorem run_changeFiles_of_error
    {change : FileSystem → Except IoError FileSystem}
    {machine : Machine}
    {failure : IoError}
    (failed : change machine.files = .error failure) :
    changeFiles change machine = (.error failure, machine) := by
  rw [changeFiles, failed]

end Action

namespace PrivateFile

open FileSystem

/-- Whether the lock of a file can be taken; otherwise, how that fails. -/
def lockOutcome (files : FileSystem) (path : Path) : Except IoError Unit :=
  match files.locate (lockPath path) with
  | .error failure => .error failure
  | .ok location =>
    match files.find? location with
    | some (.directory _) => .error .isDirectory
    | _ => .ok ()

/-- The place of the lock of a file. -/
def IsLock (files : FileSystem) (path : Path) (location : Location) : Prop :=
  files.locate (lockPath path) = .ok location

/-- A change that spares all places but some: a file that was there keeps its content, and nothing
comes to be there except for the lock of a file, which is empty. Of what was there only the lock may
get other permissions. -/
structure Spares
    (path : Path)
    (changed : Location → Prop)
    (before after : FileSystem) : Prop
    extends ChangesOnly (fun location => changed location ∨ IsLock before path location)
      before after where
  contents : ∀ location content, ¬ changed location →
    before.content? location = some content → after.content? location = some content
  created : ∀ location node, ¬ changed location →
    before.find? location = none → after.find? location = some node →
    IsLock before path location ∧ node = .file mode []

namespace Spares

variable {path : Path} {changed : Location → Prop} {before between after : FileSystem}

theorem refl (files : FileSystem) : Spares path changed files files where
  toChangesOnly := .refl files
  contents := fun _ _ _ found => found
  created := by
    intro location node _ nothing found
    rw [nothing] at found
    cases found

/-- A lock that becomes private, empty if it was not there, spares everything. -/
theorem insert_lock
    {location : Location}
    (isLock : IsLock before path location)
    (noDirectory : before.requireDirectory location ≠ .ok ()) :
    Spares path changed before
      (before.insert location (.file mode ((before.content? location).getD []))) where
  toChangesOnly := by
    apply (ChangesOnly.insert_file noDirectory _ _).mono
    rintro place rfl
    exact Or.inr isLock
  contents := by
    intro place content _ found
    by_cases here : place = location
    · subst here
      exact content?_eq_some_iff.mpr ⟨mode, by rw [find?_insert_self, found, Option.getD_some]⟩
    · rwa [content?, find?_insert_of_ne before _ here]
  created := by
    intro place node _ nothing found
    by_cases here : place = location
    · subst here
      rw [find?_insert_self, content?_eq_none_of_find? nothing, Option.getD_none] at found
      exact ⟨isLock, (Option.some.inj found).symm⟩
    · rw [find?_insert_of_ne before _ here, nothing] at found
      cases found

/-- What is not spared may change further. -/
theorem trans_changes
    (spares : Spares path changed before between)
    (changes : ChangesOnly changed between after) :
    Spares path changed before after where
  toChangesOnly := spares.toChangesOnly.trans (changes.mono fun _ => Or.inl)
  contents := by
    intro location content unchanged found
    rw [content?, changes.elsewhere location unchanged]
    exact spares.contents location content unchanged found
  created := by
    intro location node unchanged nothing found
    rw [changes.elsewhere location unchanged] at found
    exact spares.created location node unchanged nothing found

theorem mono
    {other : Location → Prop}
    (spares : Spares path changed before after)
    (wider : ∀ location, changed location → other location) :
    Spares path other before after where
  toChangesOnly := spares.toChangesOnly.mono fun _ => Or.imp_left (wider _)
  contents := fun location content unchanged =>
    spares.contents location content fun inside => unchanged (wider location inside)
  created := fun location node unchanged =>
    spares.created location node fun inside => unchanged (wider location inside)

/-- What spares everything touches the lock only. -/
theorem lockChanges
    (spares : Spares path (fun _ => False) before after) :
    ChangesOnly (IsLock before path) before after := by
  apply spares.toChangesOnly.mono
  rintro location (impossible | isLock)
  · exact impossible.elim
  · exact isLock

end Spares

theorem lockOutcome_eq_ok_iff
    {files : FileSystem}
    {path : Path} :
    lockOutcome files path = .ok () ↔
      ∃ location, IsLock files path location ∧ files.requireDirectory location ≠ .ok () := by
  unfold lockOutcome IsLock
  cases files.locate (lockPath path) with
  | error failure => simp
  | ok location =>
      simp only [Except.ok.injEq, exists_eq_left', Ne, requireDirectory_eq_ok_iff]
      cases found : files.find? location with
      | none => simp
      | some node => cases node <;> simp

/-- A lock that cannot be taken changes nothing. -/
theorem run_lock_of_error
    {path : Path}
    {machine : Machine}
    {failure : IoError}
    (lockedOut : lockOutcome machine.files path = .error failure) :
    lock path machine = (.error failure, machine) := by
  have untouched : machine.files.touch (lockPath path) = .error failure := by
    unfold lockOutcome at lockedOut
    unfold touch
    cases located : machine.files.locate (lockPath path) with
    | error reason =>
        rw [located] at lockedOut
        rw [Except.error.inj lockedOut]
    | ok location =>
        simp only [located] at lockedOut ⊢
        cases found : machine.files.find? location with
        | none => simp [found] at lockedOut
        | some node => cases node <;> simp_all
  exact run_bind_of_error (Action.run_changeFiles_of_error untouched)

/-- A lock that is not there yet comes to be in two steps: an empty file with the permissions of any
new file, which others may open, is made private. -/
theorem steps_of_newLock
    {files : FileSystem}
    {path : Path}
    {location : Location}
    (isLock : IsLock files path location)
    (free : files.find? location = none) :
    files.touch (lockPath path) = .ok (files.insert location (.file fileMode [])) ∧
      (files.insert location (.file fileMode [])).setMode (lockPath path) mode =
        .ok (files.insert location (.file mode [])) :=
  ⟨touch_of_free isLock free,
    setMode_insert isLock (requireDirectory_of_find? free) fileMode mode []⟩

/-- A lock that can be taken is private afterwards. It keeps its content; a new one is empty. -/
theorem run_lock_of_noDirectory
    {path : Path}
    {machine : Machine}
    {location : Location}
    (isLock : IsLock machine.files path location)
    (noDirectory : machine.files.requireDirectory location ≠ .ok ()) :
    lock path machine =
      (.ok (),
        { machine with
          files := machine.files.insert location
            (.file mode ((machine.files.content? location).getD [])) }) := by
  have located : machine.files.locate (lockPath path) = .ok location := isLock
  cases found : machine.files.find? location with
  | none =>
      obtain ⟨made, restricted⟩ := steps_of_newLock isLock found
      rw [content?_eq_none_of_find? found, Option.getD_none, lock,
        run_bind_of_ok (Action.run_changeFiles_of_ok made),
        Action.run_changeFiles_of_ok restricted]
  | some node =>
      cases node with
      | file old content =>
          have touched : machine.files.touch (lockPath path) = .ok machine.files := by
            simp only [touch, located, found]
          have modeSet : machine.files.setMode (lockPath path) mode =
              .ok (machine.files.insert location (.file mode content)) := by
            simp only [setMode, located, found, Node.withMode]
          rw [content?_eq_some_iff.mpr ⟨old, found⟩, Option.getD_some, lock,
            run_bind_of_ok (Action.run_changeFiles_of_ok touched),
            Action.run_changeFiles_of_ok modeSet]
      | directory old => exact absurd (requireDirectory_eq_ok_iff.mpr ⟨old, found⟩) noDirectory

/-- Taking a lock has the outcome that can be told beforehand and spares everything. -/
theorem run_lock (path : Path) (machine : Machine) :
    ∃ changed,
      lock path machine = (lockOutcome machine.files path, { machine with files := changed }) ∧
      Spares path (fun _ => False) machine.files changed := by
  cases outcome : lockOutcome machine.files path with
  | error failure => exact ⟨machine.files, run_lock_of_error outcome, .refl _⟩
  | ok =>
      obtain ⟨location, isLock, noDirectory⟩ := lockOutcome_eq_ok_iff.mp outcome
      exact ⟨_, run_lock_of_noDirectory isLock noDirectory, .insert_lock isLock noDirectory⟩

/-! ## Names of locks -/

/-- The name of the lock of a file with the given name. -/
def lockName (name : Text) : Text :=
  name ++ ".lock".toList

theorem lockPath_join
    (directory : Path)
    {name : Text}
    (noSlash : '/' ∉ name) :
    lockPath (Path.join directory name) = Path.join directory (lockName name) := by
  have lockNoSlash : '/' ∉ lockName name := by
    rw [lockName, List.mem_append, not_or]
    exact ⟨noSlash, by decide⟩
  rw [lockPath, Path.join_of_noSlash directory noSlash, Path.join_of_noSlash directory lockNoSlash]
  split <;> simp [lockName]

theorem isPlain_lockName
    {name : Text}
    (plain : Path.IsPlain name) :
    Path.IsPlain (lockName name) where
  noSlash := by
    rw [lockName, List.mem_append, not_or]
    exact ⟨plain.noSlash, by decide⟩
  long := by
    rw [lockName, List.length_append]
    exact Nat.lt_add_right _ plain.long

theorem lockName_injective : Function.Injective lockName := by
  intro first second same
  exact List.append_cancel_right same

theorem getLast?_lockName (name : Text) : (lockName name).getLast? = some 'k' := by
  rw [lockName, List.getLast?_append]
  rfl

theorem ne_lockName (name : Text) : name ≠ lockName name := by
  intro same
  have lengths := congrArg List.length same
  simp [lockName] at lengths

/-! ## Private files in a directory -/

/-- The places that the use of a private file may touch: those of the file and of its lock. -/
def MayTouch (directory : Path) (name : Text) (files : FileSystem) (location : Location) : Prop :=
  ∃ place, files.reach directory = .ok place ∧
    (location = name :: place ∨ location = lockName name :: place)

section Places

variable {directory : Path} {name : Text} {files before after : FileSystem} {location : Location}

/-- The use of a private file leads no path to its directory astray. -/
theorem reach_of_changes
    {other : Path}
    (changes : ChangesOnly (MayTouch directory name before) before after)
    (same : before.reach other = before.reach directory) :
    after.reach other = before.reach other := by
  apply changes.reach_eq
  rintro failure unreached location ⟨place, reached, -⟩
  rw [← same, unreached] at reached
  cases reached

/-- The use of a private file does not move the places that the next use may touch. -/
theorem mayTouch_of_changes
    (changes : ChangesOnly (MayTouch directory name before) before after) :
    MayTouch directory name after = MayTouch directory name before := by
  funext location
  rw [MayTouch, MayTouch, reach_of_changes changes rfl]

theorem exists_place_of_isLock
    (plain : Path.IsPlain name)
    (isLock : IsLock files (Path.join directory name) location) :
    ∃ place, files.reach directory = .ok place ∧ location = lockName name :: place := by
  rw [IsLock, lockPath_join _ plain.noSlash] at isLock
  exact exists_reach_of_locate_join (isPlain_lockName plain) isLock

theorem mayTouch_of_locate
    (plain : Path.IsPlain name)
    (located : files.locate (Path.join directory name) = .ok location) :
    MayTouch directory name files location := by
  obtain ⟨place, reached, rfl⟩ := exists_reach_of_locate_join plain located
  exact ⟨place, reached, Or.inl rfl⟩

theorem mayTouch_of_isLock
    (plain : Path.IsPlain name)
    (isLock : IsLock files (Path.join directory name) location) :
    MayTouch directory name files location := by
  obtain ⟨place, reached, rfl⟩ := exists_place_of_isLock plain isLock
  exact ⟨place, reached, Or.inr rfl⟩

theorem not_mayTouch
    {other : Text}
    {place : Location}
    (notFile : other ≠ name)
    (notLock : other ≠ lockName name) :
    ¬ MayTouch directory name files (other :: place) := by
  rintro ⟨reachedPlace, -, same | same⟩
  · exact notFile (List.cons.inj same).1
  · exact notLock (List.cons.inj same).1

/-- A file and its lock are apart. -/
theorem not_isLock_of_locate
    (plain : Path.IsPlain name)
    (located : files.locate (Path.join directory name) = .ok location) :
    ¬ IsLock files (Path.join directory name) location := by
  intro isLock
  obtain ⟨place, -, rfl⟩ := exists_reach_of_locate_join plain located
  obtain ⟨lockPlace, -, same⟩ := exists_place_of_isLock plain isLock
  exact ne_lockName _ (List.cons.inj same).1

/-- Where a lock can be taken, the file can be located as well. -/
theorem exists_locate_of_lockOutcome
    (plain : Path.IsPlain name)
    (free : lockOutcome files (Path.join directory name) = .ok ()) :
    ∃ place, files.reach directory = .ok place ∧
      files.locate (Path.join directory name) = .ok (name :: place) := by
  obtain ⟨location, isLock, -⟩ := lockOutcome_eq_ok_iff.mp free
  have checked := checkPath_of_locate isLock
  rw [IsLock, lockPath_join _ plain.noSlash] at isLock
  obtain ⟨-, short, place, reached, -⟩ :=
    (locate_join_eq_ok_iff (isPlain_lockName plain)).mp isLock
  have lengths := byteLength_append name ".lock".toList
  rw [lockName] at short
  exact ⟨place, reached, locate_join_of_reach plain
    (checkPath_of_append (Path.join_ne_nil directory plain) checked) reached (by omega)⟩

/-- Where no file has a place, no lock can be taken. -/
theorem exists_lockOutcome_eq_error
    (plain : Path.IsPlain name)
    (placeless : files.Placeless directory) :
    ∃ failure, lockOutcome files (Path.join directory name) = .error failure := by
  cases free : lockOutcome files (Path.join directory name) with
  | error failure => exact ⟨failure, rfl⟩
  | ok =>
      obtain ⟨place, -, located⟩ := exists_locate_of_lockOutcome plain free
      exact absurd located (placeless _ _ plain)

end Places

/-! ## Locks through changes -/

section Changes

variable {touched : Location → Prop} {before after : FileSystem} {path : Path}

/-- A lock that can be taken before a change can be taken after it. -/
theorem lockOutcome_of_changes
    (changes : ChangesOnly touched before after)
    (free : lockOutcome before path = .ok ()) :
    lockOutcome after path = .ok () := by
  obtain ⟨location, isLock, noDirectory⟩ := lockOutcome_eq_ok_iff.mp free
  refine lockOutcome_eq_ok_iff.mpr ⟨location, changes.locate_eq_ok isLock, ?_⟩
  rwa [Ne, changes.directories location]

end Changes

end PrivateFile
end Lockbox
