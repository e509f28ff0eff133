import Lockbox.Proofs.Directories

/-!
# Files while directories are made

Making directories makes, changes and removes no file, and whatever is new is called by a part of
the path (`FileSystem.OnlyDirectories`). So it is when a directory is made private, and when one is
resolved, whether it can be made or not (`Directories.onlyDirectories_of_resolve`).
-/

namespace Lockbox

namespace FileSystem

/-- A change that leaves all files as they are, and after which whatever is new is called by one of
the given names. -/
structure OnlyDirectories (names : List Text) (before after : FileSystem) : Prop where
  file_iff : ∀ location mode content,
    after.find? location = some (.file mode content) ↔
      before.find? location = some (.file mode content)
  named : ∀ location, before.find? location = none → after.find? location ≠ none →
    ∃ name ∈ names, location.head? = some name

namespace OnlyDirectories

variable {names others : List Text} {before between after files : FileSystem}
  {location : Location}

theorem refl (names : List Text) (files : FileSystem) : OnlyDirectories names files files where
  file_iff := fun _ _ _ => Iff.rfl
  named := fun _ missing found => absurd missing found

theorem trans
    (first : OnlyDirectories names before between)
    (second : OnlyDirectories names between after) :
    OnlyDirectories names before after where
  file_iff := fun location mode content =>
    (second.file_iff location mode content).trans (first.file_iff location mode content)
  named := by
    intro location missing found
    by_cases missingBetween : between.find? location = none
    · exact second.named location missingBetween found
    · exact first.named location missing missingBetween

theorem mono
    (only : OnlyDirectories names before after)
    (subset : names ⊆ others) :
    OnlyDirectories others before after where
  file_iff := only.file_iff
  named := by
    intro location missing found
    obtain ⟨name, member, called⟩ := only.named location missing found
    exact ⟨name, subset member, called⟩

/-- A directory that is put where there is no file. -/
theorem insert
    (noFile : ∀ mode content, files.find? location ≠ some (.file mode content))
    (called : files.find? location = none → ∃ name ∈ names, location.head? = some name)
    (mode : Nat) :
    OnlyDirectories names files (files.insert location (.directory mode)) where
  file_iff := by
    intro other otherMode content
    by_cases here : other = location
    · subst here
      simpa using noFile otherMode content
    · rw [find?_insert_of_ne files _ here]
  named := by
    intro other missing found
    by_cases here : other = location
    · subst here
      exact called missing
    · rw [find?_insert_of_ne files _ here] at found
      exact absurd missing found

end OnlyDirectories

/-! ## Making directories -/

section Making

variable {files changed : FileSystem} {start : Location} {reversed : List Text}

/-- What is entered through a part that is not there yet is called by the part. -/
theorem head?_of_enter
    {place location : Location}
    {part : Text}
    (entered : files.enter place part = .ok location)
    (noClimb : part ≠ ['.', '.'])
    (missing : files.find? location = none) :
    location.head? = some part := by
  have isDirectory := requireDirectory_of_enter entered
  rw [enter, isDirectory] at entered
  dsimp only at entered
  rw [if_neg noClimb] at entered
  split at entered
  next =>
    obtain rfl := Except.ok.inj entered
    obtain ⟨mode, found⟩ := requireDirectory_eq_ok_iff.mp isDirectory
    cases missing.symm.trans found
  next =>
    split at entered
    next => cases entered
    next =>
      obtain rfl := Except.ok.inj entered
      rfl

theorem onlyDirectories_of_makeDirectory
    (made : files.makeDirectory start reversed = .ok changed) :
    OnlyDirectories reversed files changed := by
  obtain ⟨empty, last, before, place, location, rfl, -, -, entered, ⟨-, noClimb⟩, missing, rfl⟩ :=
    exists_of_makeDirectory_eq_ok made
  have member : last ∈ empty ++ last :: before := List.mem_append_right _ List.mem_cons_self
  refine .insert (by simp [missing]) (fun _ => ⟨last, member, ?_⟩) _
  exact head?_of_enter entered noClimb missing

theorem onlyDirectories_makeDirectories
    (files : FileSystem)
    (start : Location)
    (reversed : List Text) :
    OnlyDirectories reversed files (files.makeDirectories start reversed).2 :=
  makeDirectories_keeps (OnlyDirectories reversed) (.refl reversed) (fun _ _ _ => .trans)
    (fun _ _ _ subset made => (onlyDirectories_of_makeDirectory made).mono subset)
    files (List.Subset.refl reversed)

theorem onlyDirectories_createDirectories (files : FileSystem) (path : Path) :
    OnlyDirectories (Path.parts path) files (files.createDirectories path).2 := by
  unfold createDirectories
  split
  next => exact .refl _ files
  next =>
    split
    next => exact .refl _ files
    next =>
      exact (onlyDirectories_makeDirectories _ _ _).mono fun _ => List.mem_reverse.mp

/-- Giving a directory other permissions leaves all files as they are. -/
theorem onlyDirectories_of_setMode
    {path : Path}
    {mode : Nat}
    (found : files.status path = .ok (.directory mode))
    (modeSet : files.setMode path Directories.privateMode = .ok changed) :
    OnlyDirectories [] files changed := by
  obtain ⟨place, -, reached, isDirectory⟩ := exists_place_of_status found
  obtain ⟨samePlace, reachedAgain, modeSetAgain, -, -⟩ := Directories.setMode_of_directory found
  obtain rfl := Except.ok.inj (reached.symm.trans reachedAgain)
  obtain rfl := Except.ok.inj (modeSet.symm.trans modeSetAgain)
  obtain ⟨oldMode, there⟩ := requireDirectory_eq_ok_iff.mp isDirectory
  exact .insert (by simp [there]) (by simp [there]) _

end Making
end FileSystem

namespace Directories

open FileSystem

/-- Making a private directory leaves all files as they are. -/
theorem onlyDirectories_createPrivate (path : Path) (machine : Machine) :
    OnlyDirectories (Path.parts path) machine.files (createPrivate path machine).2.files := by
  have made := onlyDirectories_createDirectories machine.files path
  rw [run_createPrivate]
  cases created : machine.files.createDirectories path with
  | mk outcome changed =>
      rw [created] at made
      cases outcome with
      | error failure => exact made
      | ok =>
          dsimp only
          cases modeSet : changed.setMode path privateMode with
          | error failure => exact made
          | ok final =>
              obtain ⟨mode, found⟩ :=
                status_of_createDirectories (checkPath_of_setMode modeSet) created
              exact made.trans
                ((onlyDirectories_of_setMode found modeSet).mono (List.nil_subset _))

/-- The names of the directories that resolving a directory may make: those in its path, and those
in the path of the spare one. -/
def namesOf (requested : Option Path) (environment : Environment) : List Text :=
  Path.parts (asked requested environment) ++ Path.parts environment.spareDirectory

section Resolve

variable {ε : Type} {requested : Option Path} {path : Path} {machine after : Machine}

/-- The directory that is resolved to is the one asked for or the spare one. -/
theorem parts_subset_namesOf
    (resolved : (resolve requested : Action ε Path) machine = (.ok path, after)) :
    Path.parts path ⊆ namesOf requested machine.environment := by
  rw [run_resolve] at resolved
  split at resolved
  next =>
    cases resolved
    exact List.subset_append_left _ _
  next =>
    cases resolved
    exact List.subset_append_right _ _

/-- Resolving a directory leaves all files as they are. -/
theorem onlyDirectories_of_resolve
    (resolved : (resolve requested : Action ε Path) machine = (.ok path, after)) :
    OnlyDirectories (namesOf requested machine.environment) machine.files after.files := by
  have first := (onlyDirectories_createPrivate (asked requested machine.environment) machine).mono
    (List.subset_append_left _ (Path.parts machine.environment.spareDirectory))
  rw [run_resolve] at resolved
  cases ran : createPrivate (asked requested machine.environment) machine with
  | mk outcome between =>
      rw [ran] at first resolved
      cases outcome with
      | ok =>
          cases resolved
          exact first
      | error failure =>
          cases resolved
          exact first.trans ((onlyDirectories_createPrivate _ between).mono
            (List.subset_append_right _ _))

end Resolve

end Directories
end Lockbox
