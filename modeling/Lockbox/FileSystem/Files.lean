import Lockbox.FileSystem.Tree

/-!
# Reading and writing files

Each operation either fails and changes nothing or gives the whole tree after it.
-/

namespace Lockbox
namespace FileSystem

/-- The permissions of a new file. -/
def fileMode : Nat := 0o644

/-- The content of the file to which a path leads. -/
def read (files : FileSystem) (path : Path) : Except IoError Bytes :=
  match files.status path with
  | .error failure => .error failure
  | .ok (.directory _) => .error .isDirectory
  | .ok (.file _ content) => .ok content

/-- The text of the file to which a path leads. -/
def readText (files : FileSystem) (path : Path) : Except IoError Text :=
  match files.read path with
  | .error failure => .error failure
  | .ok content =>
    match Utf8.decode content with
    | .ok text => .ok text
    | .error _ => .error .notText

/-- The tree with other permissions of what a path leads to. -/
def setMode (files : FileSystem) (path : Path) (mode : Nat) : Except IoError FileSystem :=
  match files.locate path with
  | .error failure => .error failure
  | .ok location =>
    match files.find? location with
    | none => .error .notFound
    | some node => .ok (files.insert location (node.withMode mode))

/-- The tree with an empty file of a path, unless there is a file already. -/
def touch (files : FileSystem) (path : Path) : Except IoError FileSystem :=
  match files.locate path with
  | .error failure => .error failure
  | .ok location =>
    match files.find? location with
    | none => .ok (files.insert location (.file fileMode []))
    | some (.directory _) => .error .isDirectory
    | some (.file _ _) => .ok files

/-- The tree with a new, empty file of a path. There must be nothing there yet. -/
def create (files : FileSystem) (path : Path) (mode : Nat) : Except IoError FileSystem :=
  match files.locate path with
  | .error failure => .error failure
  | .ok location =>
    match files.find? location with
    | none => .ok (files.insert location (.file mode []))
    | some _ => .error .alreadyExists

/-- The tree with other content of the file of a path. A file that was there keeps its
permissions. -/
def write (files : FileSystem) (path : Path) (content : Bytes) : Except IoError FileSystem :=
  match files.locate path with
  | .error failure => .error failure
  | .ok location =>
    match files.find? location with
    | none => .ok (files.insert location (.file fileMode content))
    | some (.directory _) => .error .isDirectory
    | some (.file mode _) => .ok (files.insert location (.file mode content))

/-- The tree with a new file in place of the one of a path, if there was one. The new file is
complete before it takes the place of the old one. -/
def replace (files : FileSystem) (path : Path) (mode : Nat) (content : Bytes) :
    Except IoError FileSystem :=
  match files.locate path with
  | .error failure => .error failure
  | .ok location =>
    match files.find? location with
    | some (.directory _) => .error .isDirectory
    | _ => .ok (files.insert location (.file mode content))

/-- The tree with the file of one path in the place of another path. Directories are not moved. -/
def moveFile (files : FileSystem) (source target : Path) : Except IoError FileSystem :=
  match files.locate source with
  | .error failure => .error failure
  | .ok origin =>
    match files.locate target with
    | .error failure => .error failure
    | .ok location =>
      match files.find? origin, files.find? location with
      | none, _ => .error .notFound
      | some (.directory _), _ => .error .isDirectory
      | some (.file _ _), some (.directory _) => .error .isDirectory
      | some (.file mode content), _ =>
        .ok ((files.erase origin).insert location (.file mode content))

/-- The tree without the file of a path. -/
def remove (files : FileSystem) (path : Path) : Except IoError FileSystem :=
  match files.locate path with
  | .error failure => .error failure
  | .ok location =>
    match files.find? location with
    | none => .error .notFound
    | some (.directory _) => .error .isDirectory
    | some (.file _ _) => .ok (files.erase location)

end FileSystem
end Lockbox
