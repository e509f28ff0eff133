import Lockbox.FileSystem.Files
import Lockbox.Proofs.FileSystem.Reach

/-!
# What a change of the files leaves alone

A change is bounded by the places that it may touch. Directories stay directories and nothing else
becomes one, so every walk that succeeds before a bounded change leads to the same place after it.
-/

namespace Lockbox
namespace FileSystem

theorem requireDirectory_eq_ok_iff
    {files : FileSystem}
    {location : Location} :
    files.requireDirectory location = .ok () ↔
      ∃ mode, files.find? location = some (.directory mode) := by
  unfold requireDirectory
  split <;> simp_all

theorem find?_erase_self
    (files : FileSystem)
    (name : Text)
    (place : Location) :
    (files.erase (name :: place)).find? (name :: place) = none := by
  change List.lookup (name :: place) (files.erase (name :: place)).entries = none
  rw [erase, List.lookup_eq_none_iff]
  intro entry member
  simp only [List.mem_filter, bne_iff_ne] at member
  simpa using Ne.symm member.2

/-- The content of the file at a place, if there is one. -/
def content? (files : FileSystem) (location : Location) : Option Bytes :=
  match files.find? location with
  | some (.file _ content) => some content
  | _ => none

theorem content?_eq_some_iff
    {files : FileSystem}
    {location : Location}
    {content : Bytes} :
    files.content? location = some content ↔
      ∃ mode, files.find? location = some (.file mode content) := by
  unfold content?
  split <;> simp_all

theorem content?_eq_none_of_find?
    {files : FileSystem}
    {location : Location}
    (nothing : files.find? location = none) :
    files.content? location = none := by
  rw [content?, nothing]

theorem erase_insert
    (files : FileSystem)
    (location : Location)
    (node : Node) :
    (files.insert location node).erase location = files.erase location := by
  simp [insert, erase, List.filter_filter]

theorem insert_insert
    (files : FileSystem)
    (location : Location)
    (first second : Node) :
    (files.insert location first).insert location second = files.insert location second := by
  rw [insert, erase_insert]
  rfl

/-- Where there is nothing, nothing can be taken away. -/
theorem erase_of_find?
    {files : FileSystem}
    {location : Location}
    (nothing : files.find? location = none) :
    files.erase location = files := by
  have noEntry : ∀ entry ∈ files.entries, entry.1 ≠ location := by
    cases location with
    | nil => cases nothing
    | cons name place =>
        intro entry member same
        have absent := List.lookup_eq_none_iff.mp nothing entry member
        rw [same] at absent
        simp at absent
  have kept : files.entries.filter (fun entry => entry.1 != location) = files.entries := by
    rw [List.filter_eq_self]
    intro entry member
    simpa using noEntry entry member
  rw [erase, kept]

theorem requireDirectory_of_find?
    {files : FileSystem}
    {location : Location}
    (nothing : files.find? location = none) :
    files.requireDirectory location ≠ .ok () := by
  rw [Ne, requireDirectory_eq_ok_iff, nothing]
  simp

/-- What is a file is no directory. -/
theorem requireDirectory_of_file
    {files : FileSystem}
    {location : Location}
    {mode : Nat}
    {content : Bytes}
    (found : files.find? location = some (.file mode content)) :
    files.requireDirectory location ≠ .ok () := by
  rw [Ne, requireDirectory_eq_ok_iff, found]
  simp

/-! ## Walks where there are more directories -/

section Walks

variable {before after : FileSystem}

theorem enter_eq_ok_of_directories
    (more : ∀ location, before.requireDirectory location = .ok () →
      after.requireDirectory location = .ok ())
    {start place : Location}
    {part : Text}
    (entered : before.enter start part = .ok place) :
    after.enter start part = .ok place := by
  cases required : before.requireDirectory start with
  | error failure => simp [enter, required] at entered
  | ok => rw [← entered, enter, enter, required, more start required]

/-- A walk that succeeds leads to the same place where there are more directories. -/
theorem walk_eq_ok_of_directories
    (more : ∀ location, before.requireDirectory location = .ok () →
      after.requireDirectory location = .ok ())
    {start place : Location}
    {parts : List Text}
    (walked : before.walk start parts = .ok place) :
    after.walk start parts = .ok place := by
  induction parts generalizing start with
  | nil => exact walked
  | cons part rest inductionHypothesis =>
      cases entered : before.enter start part with
      | error failure => simp [walk, entered] at walked
      | ok next =>
          rw [walk, entered] at walked
          rw [walk, enter_eq_ok_of_directories more entered]
          exact inductionHypothesis walked

end Walks

/-! ## Bounded changes -/

/-- A change that touches only some places. -/
structure ChangesOnly
    (touched : Location → Prop)
    (before after : FileSystem) : Prop where
  workingDirectory : after.workingDirectory = before.workingDirectory
  elsewhere : ∀ location, ¬ touched location → after.find? location = before.find? location
  directories : ∀ location,
    after.requireDirectory location = .ok () ↔ before.requireDirectory location = .ok ()

namespace ChangesOnly

variable {touched other : Location → Prop} {before between after : FileSystem}

theorem refl (files : FileSystem) : ChangesOnly touched files files where
  workingDirectory := rfl
  elsewhere := fun _ _ => rfl
  directories := fun _ => Iff.rfl

theorem trans
    (first : ChangesOnly touched before between)
    (second : ChangesOnly touched between after) :
    ChangesOnly touched before after where
  workingDirectory := second.workingDirectory.trans first.workingDirectory
  elsewhere := by
    intro location untouched
    rw [second.elsewhere location untouched, first.elsewhere location untouched]
  directories := by
    intro location
    rw [second.directories location, first.directories location]

theorem symm
    (changes : ChangesOnly touched before after) :
    ChangesOnly touched after before where
  workingDirectory := changes.workingDirectory.symm
  elsewhere := fun location untouched => (changes.elsewhere location untouched).symm
  directories := fun location => (changes.directories location).symm

theorem mono
    (changes : ChangesOnly touched before after)
    (wider : ∀ location, touched location → other location) :
    ChangesOnly other before after where
  workingDirectory := changes.workingDirectory
  elsewhere := by
    intro location untouched
    apply changes.elsewhere
    intro inside
    exact untouched (wider location inside)
  directories := changes.directories

/-- A change at one place that leaves it a directory or leaves it none touches that place only. -/
theorem of_place
    {location : Location}
    (workingDirectory : after.workingDirectory = before.workingDirectory)
    (elsewhere : ∀ place, place ≠ location → after.find? place = before.find? place)
    (here : after.requireDirectory location = .ok () ↔ before.requireDirectory location = .ok ()) :
    ChangesOnly (· = location) before after where
  workingDirectory := workingDirectory
  elsewhere := elsewhere
  directories := by
    intro place
    by_cases same : place = location
    · rw [same]
      exact here
    · rw [requireDirectory_eq_ok_iff, requireDirectory_eq_ok_iff, elsewhere place same]

/-- A file put where no directory is touches that place only. -/
theorem insert_file
    {files : FileSystem}
    {location : Location}
    (noDirectory : files.requireDirectory location ≠ .ok ())
    (mode : Nat)
    (content : Bytes) :
    ChangesOnly (· = location) files (files.insert location (.file mode content)) :=
  of_place rfl (fun _ different => find?_insert_of_ne files _ different)
    (iff_of_false (requireDirectory_of_file (find?_insert_self _ _ _)) noDirectory)

/-- Other permissions of a directory touch that place only. -/
theorem insert_directory
    {files : FileSystem}
    {location : Location}
    (isDirectory : files.requireDirectory location = .ok ())
    (mode : Nat) :
    ChangesOnly (· = location) files (files.insert location (.directory mode)) := by
  have stays : (files.insert location (.directory mode)).requireDirectory location = .ok () :=
    requireDirectory_eq_ok_iff.mpr ⟨mode, find?_insert_self _ _ _⟩
  exact of_place rfl (fun _ different => find?_insert_of_ne files _ different)
    (iff_of_true stays isDirectory)

/-- Where a file is taken away, only its place is touched. -/
theorem erase_file
    {files : FileSystem}
    {name : Text}
    {place : Location}
    (noDirectory : files.requireDirectory (name :: place) ≠ .ok ()) :
    ChangesOnly (· = name :: place) files (files.erase (name :: place)) :=
  of_place rfl (fun _ different => find?_erase_of_ne files different)
    (iff_of_false (requireDirectory_of_find? (find?_erase_self _ _ _)) noDirectory)

/-! ## Walks -/

/-- A walk that succeeds before a change leads to the same place after it. -/
theorem walk_eq_ok
    (changes : ChangesOnly touched before after)
    {start place : Location}
    {parts : List Text}
    (walked : before.walk start parts = .ok place) :
    after.walk start parts = .ok place :=
  walk_eq_ok_of_directories (fun location => (changes.directories location).mpr) walked

theorem startOf_eq
    (changes : ChangesOnly touched before after)
    (path : Path) :
    after.startOf path = before.startOf path := by
  rw [startOf, startOf, changes.workingDirectory]

theorem locate_eq_ok
    (changes : ChangesOnly touched before after)
    {path : Path}
    {location : Location}
    (located : before.locate path = .ok location) :
    after.locate path = .ok location := by
  cases checked : checkPath path with
  | error failure => simp [locate, checked] at located
  | ok =>
      simp only [locate, checked] at located ⊢
      rw [changes.startOf_eq]
      exact changes.walk_eq_ok located

theorem reach_eq_ok
    (changes : ChangesOnly touched before after)
    {directory : Path}
    {place : Location}
    (reached : before.reach directory = .ok place) :
    after.reach directory = .ok place := by
  rw [reach, changes.startOf_eq]
  exact changes.walk_eq_ok reached

/-- What a path leads to is the same after a change that does not touch it. -/
theorem status_eq_ok
    (changes : ChangesOnly touched before after)
    {path : Path}
    {node : Node}
    (untouched : ∀ location, before.locate path = .ok location → ¬ touched location)
    (found : before.status path = .ok node) :
    after.status path = .ok node := by
  unfold status at found
  split at found
  next => cases found
  next location located =>
    rw [status, changes.locate_eq_ok located]
    dsimp only
    rw [changes.elsewhere location (untouched location located)]
    exact found

/-! ## Changes that touch nothing -/

theorem requireDirectory_eq
    (changes : ChangesOnly touched before after)
    (idle : ∀ location, ¬ touched location)
    (location : Location) :
    after.requireDirectory location = before.requireDirectory location := by
  rw [requireDirectory, requireDirectory, changes.elsewhere location (idle location)]

theorem walk_eq
    (changes : ChangesOnly touched before after)
    (idle : ∀ location, ¬ touched location)
    (start : Location)
    (parts : List Text) :
    after.walk start parts = before.walk start parts := by
  induction parts generalizing start with
  | nil => rfl
  | cons part rest inductionHypothesis =>
      have entered : after.enter start part = before.enter start part := by
        rw [enter, enter, changes.requireDirectory_eq idle]
      rw [walk, walk, entered]
      cases before.enter start part with
      | error failure => rfl
      | ok next => exact inductionHypothesis next

/-- A directory is reached as before, if nothing is touched when it cannot be reached. -/
theorem reach_eq
    (changes : ChangesOnly touched before after)
    {directory : Path}
    (idle : ∀ failure, before.reach directory = .error failure → ∀ location, ¬ touched location) :
    after.reach directory = before.reach directory := by
  cases reached : before.reach directory with
  | ok place => exact changes.reach_eq_ok reached
  | error failure =>
      rw [← reached, reach, reach, changes.startOf_eq]
      exact changes.walk_eq (idle failure reached) _ _

end ChangesOnly
/-! ## Files put in place and taken away -/

theorem replace_of_noDirectory
    {files : FileSystem}
    {path : Path}
    {location : Location}
    (located : files.locate path = .ok location)
    (noDirectory : files.requireDirectory location ≠ .ok ())
    (mode : Nat)
    (content : Bytes) :
    files.replace path mode content = .ok (files.insert location (.file mode content)) := by
  rw [replace, located]
  dsimp only
  split
  next directoryMode found =>
    exact absurd (requireDirectory_eq_ok_iff.mpr ⟨directoryMode, found⟩) noDirectory
  next => rfl

theorem touch_of_free
    {files : FileSystem}
    {path : Path}
    {location : Location}
    (located : files.locate path = .ok location)
    (free : files.find? location = none) :
    files.touch path = .ok (files.insert location (.file fileMode [])) := by
  simp only [touch, located, free]

/-- A file that has been put in place can be given other permissions. -/
theorem setMode_insert
    {files : FileSystem}
    {path : Path}
    {location : Location}
    (located : files.locate path = .ok location)
    (noDirectory : files.requireDirectory location ≠ .ok ())
    (old mode : Nat)
    (content : Bytes) :
    (files.insert location (.file old content)).setMode path mode =
      .ok (files.insert location (.file mode content)) := by
  have stillLocated := (ChangesOnly.insert_file noDirectory old content).locate_eq_ok located
  simp only [setMode, stillLocated, find?_insert_self, Node.withMode, insert_insert]

theorem remove_of_file
    {files : FileSystem}
    {path : Path}
    {location : Location}
    {mode : Nat}
    {content : Bytes}
    (located : files.locate path = .ok location)
    (found : files.find? location = some (.file mode content)) :
    files.remove path = .ok (files.erase location) := by
  simp only [remove, located, found]

/-- A file that is put in the place of a path is there, and nothing else is touched. -/
theorem changes_of_replace
    {files changed : FileSystem}
    {path : Path}
    {mode : Nat}
    {content : Bytes}
    (replaced : files.replace path mode content = .ok changed) :
    ∃ location,
      files.locate path = .ok location ∧
      changed.find? location = some (.file mode content) ∧
      ChangesOnly (· = location) files changed := by
  unfold replace at replaced
  split at replaced
  next => cases replaced
  next location located =>
    split at replaced
    next => cases replaced
    next noDirectory =>
      obtain rfl := Except.ok.inj replaced
      refine ⟨location, located, find?_insert_self _ _ _, ChangesOnly.insert_file ?_ _ _⟩
      intro required
      obtain ⟨directoryMode, found⟩ := requireDirectory_eq_ok_iff.mp required
      exact noDirectory directoryMode found

/-- A file that is written to has its content, and nothing else is touched. -/
theorem changes_of_write
    {files changed : FileSystem}
    {path : Path}
    {content : Bytes}
    (written : files.write path content = .ok changed) :
    ∃ location mode,
      files.locate path = .ok location ∧
      changed.find? location = some (.file mode content) ∧
      ChangesOnly (· = location) files changed := by
  unfold write at written
  split at written
  next => cases written
  next location located =>
    split at written
    next nothing =>
      obtain rfl := Except.ok.inj written
      exact ⟨location, fileMode, located, find?_insert_self _ _ _,
        ChangesOnly.insert_file (requireDirectory_of_find? nothing) _ _⟩
    next => cases written
    next mode old found =>
      obtain rfl := Except.ok.inj written
      exact ⟨location, mode, located, find?_insert_self _ _ _,
        ChangesOnly.insert_file (requireDirectory_of_file found) _ _⟩

theorem pathExists_of_write
    {files changed : FileSystem}
    {path : Path}
    {content : Bytes}
    (written : files.write path content = .ok changed) :
    changed.pathExists path = true := by
  obtain ⟨location, mode, located, found, changes⟩ := changes_of_write written
  simp only [pathExists, status, changes.locate_eq_ok located, found]

/-- Whether a file can be written to does not depend on the content. -/
theorem write_eq_error
    {files : FileSystem}
    {path : Path}
    {content : Bytes}
    {failure : IoError}
    (failed : files.write path content = .error failure)
    (other : Bytes) :
    files.write path other = .error failure := by
  unfold write at failed ⊢
  split at failed
  next => exact failed
  next =>
    split at failed
    next => cases failed
    next => exact failed
    next => cases failed

/-- A file that is removed is gone, and nothing else is touched. -/
theorem changes_of_remove
    {files changed : FileSystem}
    {path : Path}
    (removed : files.remove path = .ok changed) :
    ∃ location,
      files.locate path = .ok location ∧
      (location ≠ [] →
        changed.find? location = none ∧ ChangesOnly (· = location) files changed) := by
  unfold remove at removed
  split at removed
  next => cases removed
  next location located =>
    split at removed
    next => cases removed
    next => cases removed
    next mode content found =>
      obtain rfl := Except.ok.inj removed
      refine ⟨location, located, fun below => ?_⟩
      obtain ⟨name, place, rfl⟩ := List.exists_cons_of_ne_nil below
      exact ⟨find?_erase_self _ _ _, ChangesOnly.erase_file (requireDirectory_of_file found)⟩

theorem pathExists_of_remove_eq_notFound
    {files : FileSystem}
    {path : Path}
    (missing : files.remove path = .error .notFound) :
    files.pathExists path = false := by
  unfold remove at missing
  split at missing
  next failure unlocated => simp only [pathExists, status, unlocated]
  next location located =>
    split at missing
    next nothing => simp only [pathExists, status, located, nothing]
    next => cases missing
    next => cases missing

end FileSystem
end Lockbox
