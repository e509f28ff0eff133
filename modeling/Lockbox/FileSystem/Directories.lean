import Lockbox.FileSystem.Tree

/-!
# Making directories

A directory is made together with all directories above it that are missing. When one of them
cannot be made, those made before it stay.
-/

namespace Lockbox
namespace FileSystem

/-- The permissions of a new directory. -/
def directoryMode : Nat := 0o755

/-- The tree with one more directory. The parts of its path are given last one first; slashes at
the end of a path do not count. -/
def makeDirectory (files : FileSystem) (start : Location) (reversed : List Text) :
    Except IoError FileSystem :=
  match reversed.dropWhile (· == []) with
  | [] => .error .alreadyExists
  | last :: before =>
    match files.walk start before.reverse with
    | .error failure => .error failure
    | .ok place =>
      match files.enter place last with
      | .error failure => .error failure
      | .ok location =>
        if last = ['.'] ∨ last = ['.', '.'] ∨ (files.find? location).isSome then
          .error .alreadyExists
        else .ok (files.insert location (.directory directoryMode))

/-- Whether the parts of a path, last one first, lead to a directory. -/
def leadsToDirectory (files : FileSystem) (start : Location) (reversed : List Text) : Bool :=
  match files.walk start reversed.reverse with
  | .error _ => false
  | .ok location =>
    match files.find? location with
    | some node => node.isDirectory
    | none => false

/-- An attempt to make a directory that counts as a success when the directory is there. -/
def ensureDirectory (files : FileSystem) (start : Location) (reversed : List Text) :
    Except IoError Unit × FileSystem :=
  match files.makeDirectory start reversed with
  | .ok changed => (.ok (), changed)
  | .error failure =>
    if files.leadsToDirectory start reversed then (.ok (), files) else (.error failure, files)

/-- A directory made together with those above it. The whole path is tried first; those above are
made only when one of them is missing. -/
def makeDirectories (files : FileSystem) (start : Location) :
    (reversed : List Text) → Except IoError Unit × FileSystem
  | [] => (.ok (), files)
  | last :: before =>
    match files.makeDirectory start (last :: before) with
    | .error .notFound =>
      match makeDirectories files start (Path.above (last :: before)) with
      | (.ok (), changed) => changed.ensureDirectory start (last :: before)
      | failed => failed
    | _ => files.ensureDirectory start (last :: before)
termination_by reversed => reversed.length
decreasing_by exact Path.length_above_lt (List.cons_ne_nil _ _)

/-- The directory of a path, made together with those above it. -/
def createDirectories (files : FileSystem) (path : Path) : Except IoError Unit × FileSystem :=
  if path = [] then (.ok (), files)
  else
    match checkPath path with
    | .error failure => (.error failure, files)
    | .ok () => files.makeDirectories (files.startOf path) (Path.parts path).reverse

/-- The directories above a path. -/
def createAbove (files : FileSystem) (path : Path) : Except IoError Unit × FileSystem :=
  match checkPath path with
  | .error failure => (.error failure, files)
  | .ok () =>
    files.makeDirectories (files.startOf path) (Path.above (Path.parts path).reverse)

end FileSystem
end Lockbox
