import Lockbox.PrivateFile
import Lockbox.Directories
import Lockbox.Proofs.FileSystem.Growth
import Mathlib.Order.Defs.Unbundled

/-!
# Changes that open nothing

A change guards a place if the place stays as it is, loses its file, or gets a private file or a
directory; a directory stays one, and its permissions change only to private ones (`GuardsPlace`).
After a change that guards every place, private directories are private (`Guards.status_directory`),
and so are the files in the place of private ones (`Guards.mode_of_status`).
-/

namespace Lockbox

open FileSystem

variable {before between after files changed : FileSystem} {location : Location} {path : Path}

theorem FileSystem.status_eq_ok_iff
    {node : Node} :
    files.status path = .ok node ↔
      ∃ location, files.locate path = .ok location ∧ files.find? location = some node := by
  unfold status
  cases files.locate path with
  | error failure => simp
  | ok location => cases found : files.find? location <;> simp [found]

theorem FileSystem.grows_createDirectories (files : FileSystem) (path : Path) :
    Grows files (files.createDirectories path).2 := by
  unfold createDirectories
  split
  next => exact .refl files
  next =>
    split
    next => exact .refl files
    next => exact grows_makeDirectories _ _ _

/-! ## Places -/

/-- What may become of a place, so that nobody but the owner gets at a file there. -/
inductive GuardsPlace : Option Node → Option Node → Prop
  /-- It stays as it is. -/
  | same {node : Option Node} : GuardsPlace node node
  /-- Its file is gone. -/
  | removed {before : Option Node}
      (noDirectory : ∀ mode, before ≠ some (.directory mode)) :
      GuardsPlace before none
  /-- It has a private file. -/
  | file {before : Option Node} {content : Bytes}
      (noDirectory : ∀ mode, before ≠ some (.directory mode)) :
      GuardsPlace before (some (.file PrivateFile.mode content))
  /-- It has a private directory. -/
  | privateDirectory {before : Option Node} :
      GuardsPlace before (some (.directory Directories.privateMode))
  /-- It has a new directory, above a private one. -/
  | newDirectory {before : Option Node}
      (noDirectory : ∀ mode, before ≠ some (.directory mode)) :
      GuardsPlace before (some (.directory directoryMode))

namespace GuardsPlace

variable {first second third : Option Node}

/-- No directory goes away. -/
theorem noDirectory
    (guards : GuardsPlace first second)
    (noDirectory : ∀ mode, second ≠ some (.directory mode)) :
    ∀ mode, first ≠ some (.directory mode) := by
  cases guards with
  | same => exact noDirectory
  | removed free => exact free
  | file free => exact free
  | privateDirectory => exact absurd rfl (noDirectory _)
  | newDirectory _ => exact absurd rfl (noDirectory _)

theorem trans
    (guards : GuardsPlace first second)
    (guards' : GuardsPlace second third) :
    GuardsPlace first third := by
  cases guards' with
  | same => exact guards
  | removed free => exact .removed (guards.noDirectory free)
  | file free => exact .file (guards.noDirectory free)
  | privateDirectory => exact .privateDirectory
  | newDirectory free => exact .newDirectory (guards.noDirectory free)

/-- The permissions of a directory change to private ones only. -/
theorem directory
    {mode : Nat}
    (guards : GuardsPlace (some (.directory mode)) second) :
    second = some (.directory mode) ∨ second = some (.directory Directories.privateMode) := by
  cases guards with
  | same => exact Or.inl rfl
  | privateDirectory => exact Or.inr rfl
  | removed free | file free | newDirectory free => exact absurd rfl (free mode)

/-- A file is the one that was there, or it is private. -/
theorem file_eq
    {mode : Nat}
    {content : Bytes}
    (guards : GuardsPlace first (some (.file mode content))) :
    first = some (.file mode content) ∨ mode = PrivateFile.mode := by
  cases guards with
  | same => exact Or.inl rfl
  | file _ => exact Or.inr rfl

end GuardsPlace

/-! ## Trees -/

/-- A change that guards every place. -/
structure Guards (before after : FileSystem) : Prop where
  workingDirectory : after.workingDirectory = before.workingDirectory
  places : ∀ location, GuardsPlace (before.find? location) (after.find? location)

namespace Guards

theorem refl (files : FileSystem) : Guards files files where
  workingDirectory := rfl
  places := fun _ => .same

theorem trans
    (first : Guards before between)
    (second : Guards between after) :
    Guards before after where
  workingDirectory := second.workingDirectory.trans first.workingDirectory
  places := fun location => (first.places location).trans (second.places location)

instance : IsPreorder FileSystem Guards where
  refl := Guards.refl
  trans := fun _ _ _ => Guards.trans

theorem of_changes
    (changes : ChangesOnly (· = location) before after)
    (guards : GuardsPlace (before.find? location) (after.find? location)) :
    Guards before after where
  workingDirectory := changes.workingDirectory
  places := by
    intro place
    by_cases here : place = location
    · rw [here]
      exact guards
    · rw [changes.elsewhere place here]
      exact .same

theorem of_grows
    (grows : Grows before after) :
    Guards before after where
  workingDirectory := grows.workingDirectory
  places := by
    intro location
    rcases grows.grown location with same | ⟨nothing, added⟩
    · rw [same]
      exact .same
    · rw [nothing, added]
      exact .newDirectory nofun

/-- Where a change puts no directory, there was none. -/
theorem noDirectory_of_changes
    {touched : Location → Prop}
    (location : Location)
    (changes : ChangesOnly touched before after)
    (noDirectory : ∀ mode, after.find? location ≠ some (.directory mode)) :
    ∀ mode, before.find? location ≠ some (.directory mode) := by
  intro mode found
  have isDirectory := requireDirectory_eq_ok_iff.mpr ⟨mode, found⟩
  obtain ⟨other, there⟩ :=
    requireDirectory_eq_ok_iff.mp ((changes.directories location).mpr isDirectory)
  exact noDirectory other there

theorem of_file
    {content : Bytes}
    (changes : ChangesOnly (· = location) before after)
    (found : after.find? location = some (.file PrivateFile.mode content)) :
    Guards before after := by
  apply of_changes changes
  have free := noDirectory_of_changes location changes (by simp [found])
  rw [found]
  exact .file free

theorem of_removed
    {name : Text}
    {place : Location}
    (located : files.locate path = .ok (name :: place))
    (removed : files.remove path = .ok changed) :
    Guards files changed := by
  obtain ⟨other, locatedAgain, removal⟩ := changes_of_remove removed
  obtain rfl := Except.ok.inj (located.symm.trans locatedAgain)
  obtain ⟨gone, changes⟩ := removal (List.cons_ne_nil _ _)
  have free := noDirectory_of_changes (name :: place) changes (by simp [gone])
  apply of_changes changes
  rw [gone]
  exact .removed free

/-! ### Paths -/

theorem requireDirectory_eq_ok
    (guards : Guards before after)
    (isDirectory : before.requireDirectory location = .ok ()) :
    after.requireDirectory location = .ok () := by
  obtain ⟨mode, found⟩ := requireDirectory_eq_ok_iff.mp isDirectory
  have place := guards.places location
  rw [found] at place
  exact requireDirectory_eq_ok_iff.mpr (place.directory.elim (⟨_, ·⟩) (⟨_, ·⟩))

/-- A path goes on leading to the same place. -/
theorem locate_eq_ok
    (guards : Guards before after)
    (located : before.locate path = .ok location) :
    after.locate path = .ok location := by
  have checked := checkPath_of_locate located
  simp only [locate, checked, startOf, guards.workingDirectory] at located ⊢
  exact walk_eq_ok_of_directories (fun _ => guards.requireDirectory_eq_ok) located

/-- A private directory stays private. -/
theorem status_directory
    (guards : Guards before after)
    (found : before.status path = .ok (.directory Directories.privateMode)) :
    after.status path = .ok (.directory Directories.privateMode) := by
  obtain ⟨location, located, there⟩ := status_eq_ok_iff.mp found
  have place := guards.places location
  rw [there] at place
  exact status_eq_ok_iff.mpr
    ⟨location, guards.locate_eq_ok located, place.directory.elim id id⟩

/-- A file that takes the place of a private file is private. -/
theorem mode_of_status
    {mode : Nat}
    {content content' : Bytes}
    (guards : Guards before after)
    (found : before.status path = .ok (.file PrivateFile.mode content))
    (foundAfter : after.status path = .ok (.file mode content')) :
    mode = PrivateFile.mode := by
  obtain ⟨location, located, there⟩ := status_eq_ok_iff.mp found
  obtain ⟨other, locatedAfter, thereAfter⟩ := status_eq_ok_iff.mp foundAfter
  obtain rfl := Except.ok.inj ((guards.locate_eq_ok located).symm.trans locatedAfter)
  have place := guards.places location
  rw [there, thereAfter] at place
  rcases place.file_eq with same | isPrivate
  · exact (Node.file.inj (Option.some.inj same)).1.symm
  · exact isPrivate

end Guards

end Lockbox
