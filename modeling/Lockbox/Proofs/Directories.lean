import Lockbox.Directories
import Lockbox.Proofs.FileSystem.Directories
import Lockbox.Proofs.PrivateFile

/-!
# Resolving a directory again

Once the directory that is asked for has been resolved to, it either is there, and then it is
resolved to again, or nothing that is tried changes anything any more (`directory_or_stuck`). The
spare directory is resolved to again as long as the one that is asked for cannot be made
(`run_resolve_of_regained`).
-/

namespace Lockbox
namespace Directories

open FileSystem

section CreatePrivate

variable {path : Path} {machine after : Machine}

theorem run_createPrivate (path : Path) (machine : Machine) :
    createPrivate path machine =
      match machine.files.createDirectories path with
      | (.error failure, changed) => (.error failure, { machine with files := changed })
      | (.ok (), changed) =>
        match changed.setMode path privateMode with
        | .error failure => (.error failure, { machine with files := changed })
        | .ok final => (.ok (), { machine with files := final }) := by
  rw [createPrivate, run_bind, Action.tryFiles]
  cases machine.files.createDirectories path with
  | mk outcome changed =>
      cases outcome with
      | error failure => rfl
      | ok =>
          dsimp only
          cases known : changed.setMode path privateMode with
          | error failure => exact Action.run_changeFiles_of_error known
          | ok final => exact Action.run_changeFiles_of_ok known

/-- Nothing but files is changed. -/
theorem exists_files_of_createPrivate (path : Path) (machine : Machine) :
    ∃ outcome changed,
      createPrivate path machine = (outcome, { machine with files := changed }) := by
  rw [run_createPrivate]
  split
  next => exact ⟨_, _, rfl⟩
  next => split <;> exact ⟨_, _, rfl⟩

theorem setMode_of_directory
    {files : FileSystem}
    {mode : Nat}
    (found : files.status path = .ok (.directory mode)) :
    ∃ place, files.reach path = .ok place ∧
      files.setMode path privateMode = .ok (files.insert place (.directory privateMode)) ∧
      ChangesOnly (· = place) files (files.insert place (.directory privateMode)) ∧
      (files.insert place (.directory privateMode)).status path =
        .ok (.directory privateMode) := by
  obtain ⟨place, located, reached, isDirectory⟩ := exists_place_of_status found
  obtain ⟨there, isThere⟩ := requireDirectory_eq_ok_iff.mp isDirectory
  have changes := ChangesOnly.insert_directory isDirectory privateMode
  refine ⟨place, reached, ?_, changes, ?_⟩
  · simp only [setMode, located, isThere, Node.withMode]
  · simp only [status, changes.locate_eq_ok located, find?_insert_self]

/-- A directory that is there becomes private. -/
theorem run_createPrivate_of_directory
    {mode : Nat}
    (found : machine.files.status path = .ok (.directory mode)) :
    ∃ place, machine.files.reach path = .ok place ∧
      createPrivate path machine =
        (.ok (), { machine with files := machine.files.insert place (.directory privateMode) }) ∧
      ChangesOnly (· = place) machine.files
        (machine.files.insert place (.directory privateMode)) := by
  obtain ⟨place, reached, modeSet, changes, -⟩ := setMode_of_directory found
  refine ⟨place, reached, ?_, changes⟩
  rw [run_createPrivate, createDirectories_of_directory found]
  simp only [modeSet]

theorem checkPath_of_setMode
    {files final : FileSystem}
    {mode : Nat}
    (modeSet : files.setMode path mode = .ok final) :
    checkPath path = .ok () := by
  cases located : files.locate path with
  | error failure => simp [setMode, located] at modeSet
  | ok place => exact checkPath_of_locate located

/-- A private directory that has been made is there. -/
theorem status_of_createPrivate
    (made : createPrivate path machine = (.ok (), after)) :
    after.files.status path = .ok (.directory privateMode) := by
  rw [run_createPrivate] at made
  split at made
  next => cases (Prod.mk.inj made).1
  next changed created =>
    split at made
    next => cases (Prod.mk.inj made).1
    next final modeSet =>
      obtain rfl := (Prod.mk.inj made).2
      obtain ⟨mode, found⟩ :=
        status_of_createDirectories (checkPath_of_setMode modeSet) created
      obtain ⟨place, -, modeSetAgain, -, status⟩ := setMode_of_directory found
      obtain rfl := Except.ok.inj (modeSet.symm.trans modeSetAgain)
      exact status

/-- A private directory that cannot be made cannot be made by trying again as long as the files stay
as they are, and trying again changes nothing more. -/
theorem createPrivate_again_of_error
    {failure : IoError}
    {later : Machine}
    (failed : createPrivate path machine = (.error failure, after))
    (sameFiles : later.files = after.files) :
    ∃ again, createPrivate path later = (.error again, later) := by
  rw [run_createPrivate] at failed
  split at failed
  next reason changed notCreated =>
    obtain rfl := (Prod.mk.inj failed).2
    obtain rfl := sameFiles
    obtain ⟨again, notCreatedAgain⟩ := createDirectories_again_of_error notCreated
    refine ⟨again, ?_⟩
    rw [run_createPrivate]
    simp only [notCreatedAgain]
  next changed created =>
    split at failed
    next reason modeNotSet =>
      obtain rfl := (Prod.mk.inj failed).2
      obtain rfl := sameFiles
      -- The directory would be there, were the path not the empty one, which nothing is made for.
      have empty : path = [] := by
        by_contra nonempty
        cases checked : checkPath path with
        | error refusal =>
            rw [createDirectories, if_neg nonempty, checked] at created
            cases (Prod.mk.inj created).1
        | ok =>
            obtain ⟨mode, found⟩ := status_of_createDirectories checked created
            obtain ⟨place, -, modeSet, -, -⟩ := setMode_of_directory found
            rw [modeNotSet] at modeSet
            cases modeSet
      subst empty
      refine ⟨reason, ?_⟩
      rw [run_createPrivate]
      simp only [createDirectories, if_true, modeNotSet]
    next => cases (Prod.mk.inj failed).1

end CreatePrivate

/-! ## The resolved directory -/

section Resolve

variable {ε : Type} {requested : Option Path} {path : Path} {machine after : Machine}

/-- The directory that is asked for, or the usual one. -/
def asked (requested : Option Path) (environment : Environment) : Path :=
  requested.getD environment.secretsDirectory

theorem run_resolve (requested : Option Path) (machine : Machine) :
    (resolve requested : Action ε Path) machine =
      match createPrivate (asked requested machine.environment) machine with
      | (.ok (), after) => (.ok (asked requested machine.environment), after)
      | (.error _, between) =>
        (.ok machine.environment.spareDirectory,
          (createPrivate machine.environment.spareDirectory between).2) := by
  rw [resolve, run_bind, Action.observe]
  dsimp only
  rw [Action.orElse, run_bind, ← asked]
  cases createPrivate (asked requested machine.environment) machine with
  | mk outcome between =>
      cases outcome with
      | ok => rfl
      | error failure =>
          dsimp only
          rw [Action.orElse, run_bind]
          cases createPrivate machine.environment.spareDirectory between with
          | mk spareOutcome after => cases spareOutcome <;> rfl

/-- Resolving a directory changes nothing but files. -/
theorem exists_files_of_resolve (requested : Option Path) (machine : Machine) :
    ∃ path changed,
      (resolve requested : Action ε Path) machine =
        (.ok path, { machine with files := changed }) := by
  obtain ⟨outcome, changed, ran⟩ :=
    exists_files_of_createPrivate (asked requested machine.environment) machine
  obtain ⟨spareOutcome, spareChanged, spareRan⟩ :=
    exists_files_of_createPrivate machine.environment.spareDirectory
      { machine with files := changed }
  rw [run_resolve, ran]
  cases outcome with
  | ok => exact ⟨_, _, rfl⟩
  | error failure =>
      dsimp only
      rw [spareRan]
      exact ⟨_, _, rfl⟩

theorem ne_nil_of_resolve
    (resolved : (resolve requested : Action ε Path) machine = (.ok path, after)) :
    path ≠ [] := by
  rintro rfl
  rw [run_resolve] at resolved
  split at resolved
  next made =>
    obtain ⟨same, rfl⟩ := Prod.mk.inj resolved
    rw [Except.ok.inj same] at made
    cases status_of_createPrivate made
  next =>
    obtain ⟨same, -⟩ := Prod.mk.inj resolved
    exact Path.join_ne_nil _ ⟨by decide, by decide⟩ (Except.ok.inj same)

/-- A directory that is asked for and is there is resolved to and becomes private. -/
theorem run_resolve_of_directory
    {mode : Nat}
    (isAsked : asked requested machine.environment = path)
    (found : machine.files.status path = .ok (.directory mode)) :
    ∃ place, machine.files.reach path = .ok place ∧
      (resolve requested : Action ε Path) machine =
        (.ok path, { machine with files := machine.files.insert place (.directory privateMode) }) ∧
      ChangesOnly (· = place) machine.files
        (machine.files.insert place (.directory privateMode)) := by
  obtain ⟨place, reached, ran, changes⟩ := run_createPrivate_of_directory found
  refine ⟨place, reached, ?_, changes⟩
  rw [run_resolve, isAsked, ran]

theorem environment_of_resolve
    (resolved : (resolve requested : Action ε Path) machine = (.ok path, after)) :
    after.environment = machine.environment := by
  obtain ⟨other, changed, ran⟩ : ∃ other changed, (resolve requested : Action ε Path) machine =
      (.ok other, { machine with files := changed }) := exists_files_of_resolve requested machine
  rw [ran] at resolved
  rw [← (Prod.mk.inj resolved).2]

/-- Resolving to a directory that is asked for, on this machine and on all with the same files and
variables, changes nothing. -/
def Stuck (requested : Option Path) (path : Path) (machine : Machine) : Prop :=
  ∀ (ε : Type) (later : Machine), later.files = machine.files →
    later.environment = machine.environment →
    (resolve requested : Action ε Path) later = (.ok path, later)

/-- Where the directory that is asked for has been resolved to, it is there, or resolving to it
again changes nothing. -/
theorem directory_or_stuck
    (isAsked : asked requested machine.environment = path)
    (resolved : (resolve requested : Action ε Path) machine = (.ok path, after)) :
    (∃ mode, after.files.status path = .ok (.directory mode)) ∨ Stuck requested path after := by
  have sameEnvironment := environment_of_resolve resolved
  rw [run_resolve, isAsked] at resolved
  cases first : createPrivate path machine with
  | mk outcome between =>
      rw [first] at resolved
      cases outcome with
      | ok =>
          obtain rfl := (Prod.mk.inj resolved).2
          exact Or.inl ⟨_, status_of_createPrivate first⟩
      | error failure =>
          -- The spare directory has the same path, and it is the second attempt at it that counts.
          obtain ⟨same, rfl⟩ := Prod.mk.inj resolved
          have isSpare : machine.environment.spareDirectory = path := Except.ok.inj same
          rw [isSpare] at sameEnvironment ⊢
          cases second : createPrivate path between with
          | mk spareOutcome final =>
              rw [second] at sameEnvironment
              cases spareOutcome with
              | ok => exact Or.inl ⟨_, status_of_createPrivate second⟩
              | error reason =>
                  right
                  intro ε' later sameFiles environment
                  obtain ⟨again, third⟩ := createPrivate_again_of_error second sameFiles
                  rw [run_resolve, environment.trans sameEnvironment, isAsked, isSpare, third]
                  simp only [third]

/-- On a machine a directory is resolved to again: it is the one that is asked for, or the spare
one, and the one that is asked for still cannot be made. -/
inductive Regained (requested : Option Path) (path : Path) (machine : Machine) : Prop
  | isAsked (same : asked requested machine.environment = path)
  | isSpare {failure : IoError}
      (same : machine.environment.spareDirectory = path)
      (unmade : createPrivate (asked requested machine.environment) machine =
        (.error failure, machine))

/-- A directory that is there and that is resolved to again might as well be asked for by name. -/
theorem resolve_of_regained
    {mode : Nat}
    (regained : Regained requested path machine)
    (found : machine.files.status path = .ok (.directory mode)) :
    (resolve requested : Action ε Path) machine = resolve (some path) machine := by
  obtain ⟨place, -, ran, -⟩ := run_createPrivate_of_directory found
  cases regained with
  | isAsked same =>
      rw [run_resolve, run_resolve, same]
      rfl
  | isSpare same unmade =>
      rw [run_resolve, run_resolve, unmade]
      simp only [same, asked, Option.getD_some, ran]

/-- A directory that is there and that is resolved to again becomes private. -/
theorem run_resolve_of_regained
    {mode : Nat}
    (regained : Regained requested path machine)
    (found : machine.files.status path = .ok (.directory mode)) :
    ∃ place, machine.files.reach path = .ok place ∧
      (resolve requested : Action ε Path) machine =
        (.ok path, { machine with files := machine.files.insert place (.directory privateMode) }) ∧
      ChangesOnly (· = place) machine.files
        (machine.files.insert place (.directory privateMode)) := by
  rw [resolve_of_regained regained found]
  exact run_resolve_of_directory rfl found

end Resolve

end Directories
end Lockbox
