import Lockbox.Machine

/-!
# Private files

Files that nobody but their owner may read. Each has a lock beside it, an empty file that stays
when the file is replaced or removed.
-/

namespace Lockbox
namespace PrivateFile

/-- The permissions of a private file. -/
def mode : Nat := 0o600

/-- The lock of a file. -/
def lockPath (path : Path) : Path :=
  path ++ ".lock".toList

/-- The lock of a file is taken: it is made if it is missing, and it is private from then on. -/
def lock (path : Path) : Action IoError Unit := do
  Action.changeFiles (FileSystem.touch · (lockPath path))
  Action.changeFiles (FileSystem.setMode · (lockPath path) mode)

/-! ## Putting a file in place -/

/-- What goes wrong with a temporary file for other reasons than the tree that it is in. -/
structure Faults where
  /-- Why its permissions cannot be set. -/
  restricting : Option IoError := none
  /-- After how many bytes its content cannot be written further, and why. -/
  writing : Option (Nat × IoError) := none
  deriving DecidableEq, Repr

/-- The characters of which the names of temporary files consist, but for their beginning. -/
def nameLetters : Text :=
  "ABCDEFGHIJKLMNOPQRSTUVWXYZabcdefghijklmnopqrstuvwxyz0123456789".toList

/-- The first of the letters that spell a number, as many as are asked for. -/
def spelled : (count : Nat) → (number : Nat) → Text
  | 0, _ => []
  | count + 1, number => nameLetters.getD (number % 62) 'A' :: spelled count (number / 62)

/-- The name of a temporary file by its number. -/
def temporaryName (number : Nat) : Text :=
  ".tmp".toList ++ spelled 6 number

/-- How many names for temporary files there are, six letters each: far more than a directory has
room for. -/
def nameCount : Nat := 62 * 62 * 62 * 62 * 62 * 62

/-- A path for a temporary file beside another path that leads nowhere yet, with one of the first
names. -/
def freePath? (files : FileSystem) (path : Path) : Nat → Option Path
  | 0 => none
  | number + 1 =>
    let temporary := Path.beside path (temporaryName number)
    if files.pathExists temporary then freePath? files path number else some temporary

/-- A temporary file is made private. -/
def restrict (faults : Faults) (temporary : Path) : Action IoError Unit :=
  match faults.restricting with
  | some failure => throw failure
  | none => Action.changeFiles (FileSystem.setMode · temporary mode)

/-- A temporary file is filled. Where that goes wrong, it has been filled in part. -/
def fill (faults : Faults) (temporary : Path) (content : Bytes) : Action IoError Unit :=
  match faults.writing with
  | some (written, failure) => do
    Action.changeFiles (FileSystem.write · temporary (content.take written))
    throw failure
  | none => Action.changeFiles (FileSystem.write · temporary content)

/-- A temporary file is made complete, and private before that. -/
def prepare (faults : Faults) (temporary : Path) (content : Bytes) : Action IoError Unit := do
  restrict faults temporary
  fill faults temporary content

/-- A file is removed if that is possible. -/
def discard {ε : Type} (path : Path) : Action ε Unit :=
  Action.orElse (Action.changeFiles (FileSystem.remove · path)) fun _ => pure ()

/-- A private file is put in the place of a path through a temporary file, which does not stay when
a step fails. -/
def putThrough (faults : Faults) (temporary path : Path) (content : Bytes) :
    Action IoError Unit := do
  Action.changeFiles (FileSystem.create · temporary mode)
  let complete : Action IoError Unit := do
    prepare faults temporary content
    Action.changeFiles (FileSystem.moveFile · temporary path)
  Action.orElse complete fun failure => do
    discard temporary
    throw failure

/-- A private file is put in the place of a path, through a temporary file that is beside it. In a
directory in which all names for temporary files were taken, it would be put there at once. -/
def putWith (faults : Faults) (path : Path) (content : Bytes) : Action IoError Unit := do
  match ← Action.observe fun machine => freePath? machine.files path nameCount with
  | some temporary => putThrough faults temporary path content
  | none => Action.changeFiles (FileSystem.replace · path mode content)

/-- A private file is put in the place of a path. Only the tree can be in the way. -/
def put (path : Path) (content : Bytes) : Action IoError Unit :=
  putWith {} path content

end PrivateFile
end Lockbox
