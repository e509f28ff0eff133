import Lockbox.Proofs.FileSystem.Directories

/-!
# Trees that grow

Making directories puts directories where nothing was and changes nothing else (`Grows`). A path
that leads to something old after that has led to it before, if the files form a tree and the path
climbs only out of directories that were there (`Grows.walk_eq_ok`).
-/

namespace Lockbox

namespace FileSystem

variable {before between after files changed : FileSystem} {start place location : Location}
  {node : Node} {reversed : List Text}

/-- A change that puts new directories where nothing was. -/
structure Grows (before after : FileSystem) : Prop where
  workingDirectory : after.workingDirectory = before.workingDirectory
  grown : ∀ location, after.find? location = before.find? location ∨
    before.find? location = none ∧ after.find? location = some (.directory directoryMode)

namespace Grows

theorem refl (files : FileSystem) : Grows files files where
  workingDirectory := rfl
  grown := fun _ => .inl rfl

/-- What was there is there. -/
theorem find?_eq_some
    (grows : Grows before after)
    (found : before.find? location = some node) :
    after.find? location = some node := by
  rcases grows.grown location with same | ⟨nothing, -⟩
  · rw [same, found]
  · rw [found] at nothing
    cases nothing

theorem trans
    (first : Grows before between)
    (second : Grows between after) :
    Grows before after where
  workingDirectory := second.workingDirectory.trans first.workingDirectory
  grown := by
    intro location
    rcases second.grown location with same | ⟨nothing, added⟩
    · rw [same]
      exact first.grown location
    · rcases first.grown location with sameFirst | ⟨-, addedFirst⟩
      · exact .inr ⟨sameFirst.symm.trans nothing, added⟩
      · rw [addedFirst] at nothing
        cases nothing

theorem requireDirectory_eq_ok
    (grows : Grows before after)
    (isDirectory : before.requireDirectory location = .ok ()) :
    after.requireDirectory location = .ok () := by
  obtain ⟨mode, found⟩ := requireDirectory_eq_ok_iff.mp isDirectory
  exact requireDirectory_eq_ok_iff.mpr ⟨mode, grows.find?_eq_some found⟩

end Grows

/-! ## Making directories -/

theorem grows_of_makeDirectory
    (made : files.makeDirectory start reversed = .ok changed) :
    Grows files changed := by
  obtain ⟨-, -, -, -, location, -, -, -, -, -, nothing, rfl⟩ := exists_of_makeDirectory_eq_ok made
  refine ⟨rfl, fun other => ?_⟩
  by_cases here : other = location
  · subst here
    exact .inr ⟨nothing, find?_insert_self _ _ _⟩
  · exact .inl (find?_insert_of_ne files _ here)

theorem grows_makeDirectories
    (files : FileSystem)
    (start : Location)
    (reversed : List Text) :
    Grows files (files.makeDirectories start reversed).2 :=
  makeDirectories_keeps Grows Grows.refl (fun _ _ _ => Grows.trans)
    (fun _ _ _ _ => grows_of_makeDirectory) files (List.Subset.refl reversed)

theorem grows_createAbove (files : FileSystem) (path : Path) :
    Grows files (files.createAbove path).2 := by
  unfold createAbove
  split
  next => exact .refl files
  next => exact grows_makeDirectories _ _ _

/-- Making the directories above a path once more changes nothing and ends alike. -/
theorem createAbove_again
    {path : Path}
    {outcome : Except IoError Unit}
    (made : files.createAbove path = (outcome, changed)) :
    ∃ again, changed.createAbove path = (again, changed) ∧ (again = .ok () → outcome = .ok ()) := by
  unfold createAbove at made ⊢
  split at made
  next failure checked => exact ⟨_, rfl, nofun⟩
  next =>
    rw [startOf_of_makeDirectories made]
    cases outcome with
    | ok => exact ⟨_, makeDirectories_again_of_ok made, fun _ => rfl⟩
    | error failure =>
        obtain ⟨again, failed⟩ := makeDirectories_again_of_error made
        exact ⟨_, failed, nofun⟩

/-! ## Trees -/

/-- Files and directories form a tree: each of them is in a directory. -/
def IsTree (files : FileSystem) : Prop :=
  ∀ entry ∈ files.entries, files.requireDirectory entry.1.tail = .ok ()

instance (files : FileSystem) : Decidable files.IsTree :=
  inferInstanceAs
    (Decidable (∀ entry ∈ files.entries, files.requireDirectory entry.1.tail = .ok ()))

namespace IsTree

theorem requireDirectory
    {name : Text}
    (tree : files.IsTree)
    (found : files.find? (name :: place) = some node) :
    files.requireDirectory place = .ok () := by
  obtain ⟨front, back, split, -⟩ := List.lookup_eq_some_iff.mp found
  exact tree (name :: place, node) (by rw [split]; simp)

/-- All that something is in is a directory. -/
theorem requireDirectory_of_suffix
    (tree : files.IsTree)
    (found : files.find? location = some node)
    (suffix : start <:+ location)
    (proper : start ≠ location) :
    files.requireDirectory start = .ok () := by
  induction location generalizing node with
  | nil => exact absurd (List.suffix_nil.mp suffix) proper
  | cons name place inductionHypothesis =>
      have isDirectory := tree.requireDirectory found
      by_cases here : start = place
      · rwa [here]
      · obtain ⟨mode, foundAbove⟩ := requireDirectory_eq_ok_iff.mp isDirectory
        exact inductionHypothesis foundAbove
          ((List.suffix_cons_iff.mp suffix).resolve_left proper) here

end IsTree

/-! ## Walks -/

theorem suffix_of_enter
    {part : Text}
    (noClimb : part ≠ ['.', '.'])
    (entered : files.enter start part = .ok place) :
    start <:+ place := by
  unfold enter at entered
  split at entered
  next => cases entered
  next =>
    split at entered
    next =>
      cases entered
      exact List.suffix_rfl
    next =>
      split at entered
      next => cases entered
      next =>
        cases entered
        exact List.suffix_cons ..

/-- A walk that does not climb stays below its start. -/
theorem suffix_of_walk
    {parts : List Text}
    (noClimb : ['.', '.'] ∉ parts)
    (walked : files.walk start parts = .ok place) :
    start <:+ place := by
  induction parts generalizing start with
  | nil =>
      cases walked
      exact List.suffix_rfl
  | cons part rest inductionHypothesis =>
      obtain ⟨notPart, notRest⟩ := not_or.mp (List.mem_cons.not.mp noClimb)
      rw [walk] at walked
      split at walked
      next => cases walked
      next next entered =>
        exact (suffix_of_enter (Ne.symm notPart) entered).trans (inductionHypothesis notRest walked)

/-- Whether a walk climbs only out of directories that are there. -/
def ClimbsFromThere (files : FileSystem) (start : Location) (parts : List Text) : Prop :=
  ∀ front back, parts = front ++ ['.', '.'] :: back →
    ∃ place, files.walk start (front ++ [['.', '.']]) = .ok place

theorem climbsFromThere_of_not_mem
    {parts : List Text}
    (noClimb : ['.', '.'] ∉ parts) :
    files.ClimbsFromThere start parts := by
  rintro front back rfl
  simp at noClimb

/-- The first part of a walk that climbs out of directories that are there can be entered. -/
theorem ClimbsFromThere.requireDirectory
    {part : Text}
    {rest : List Text}
    (climbs : files.ClimbsFromThere start (part :: rest))
    (climbing : ['.', '.'] ∈ part :: rest) :
    files.requireDirectory start = .ok () := by
  obtain ⟨front, back, split⟩ := List.append_of_mem climbing
  obtain ⟨place, walked⟩ := climbs front back split
  exact requireDirectory_of_walk (by simp) walked

theorem ClimbsFromThere.tail
    {part : Text}
    {rest : List Text}
    (climbs : files.ClimbsFromThere start (part :: rest))
    (entered : files.enter start part = .ok place) :
    files.ClimbsFromThere place rest := by
  rintro front back rfl
  obtain ⟨final, walked⟩ := climbs (part :: front) back rfl
  rw [List.cons_append, walk, entered] at walked
  exact ⟨final, walked⟩

/-- What is old and is led to in a tree that has grown was led to before, unless the path climbs out
of a new directory. -/
theorem Grows.walk_eq_ok
    {parts : List Text}
    (grows : Grows before after)
    (tree : before.IsTree)
    (climbs : before.ClimbsFromThere start parts)
    (found : before.find? location = some node)
    (walked : after.walk start parts = .ok location) :
    before.walk start parts = .ok location := by
  induction parts generalizing start with
  | nil => exact walked
  | cons part rest inductionHypothesis =>
      have isDirectory : before.requireDirectory start = .ok () := by
        by_cases climbing : ['.', '.'] ∈ part :: rest
        · exact climbs.requireDirectory climbing
        · by_cases here : start = location
          · -- The walk goes through what is old, so that is a directory.
            have required := requireDirectory_of_walk (List.cons_ne_nil _ _) walked
            obtain ⟨mode, there⟩ := requireDirectory_eq_ok_iff.mp required
            rw [here, grows.find?_eq_some found] at there
            rw [here]
            exact requireDirectory_eq_ok_iff.mpr ⟨mode, found.trans there⟩
          · exact tree.requireDirectory_of_suffix found (suffix_of_walk climbing walked) here
      have sameStep : before.enter start part = after.enter start part := by
        rw [enter, enter, isDirectory, grows.requireDirectory_eq_ok isDirectory]
      rw [walk] at walked ⊢
      rw [sameStep]
      cases entered : after.enter start part with
      | error failure => simp [entered] at walked
      | ok next =>
          rw [entered] at walked
          exact inductionHypothesis (climbs.tail (sameStep.trans entered)) walked

theorem Grows.locate_eq_ok
    {path : Path}
    (grows : Grows before after)
    (tree : before.IsTree)
    (climbs : before.ClimbsFromThere (before.startOf path) (Path.parts path))
    (found : before.find? location = some node)
    (located : after.locate path = .ok location) :
    before.locate path = .ok location := by
  have checked := checkPath_of_locate located
  have sameStart : after.startOf path = before.startOf path := by
    rw [startOf, startOf, grows.workingDirectory]
  simp only [locate, checked, sameStart] at located ⊢
  exact grows.walk_eq_ok tree climbs found located

end FileSystem
end Lockbox
