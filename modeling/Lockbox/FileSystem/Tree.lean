import Lockbox.FileSystem.Path
import Lockbox.IoError
import Lockbox.Text.Utf8

/-!
# File trees

The files and directories of a machine by their places, and the walk from a path to a place. Every
part of a path but the last has to be a directory.
-/

namespace Lockbox

/-- A place in the tree: the names on the way to it, the last one first. The root has none. -/
abbrev Location := List Text

/-- What there is at a place. -/
inductive Node
  | file (mode : Nat) (content : Bytes)
  | directory (mode : Nat)
  deriving DecidableEq, Repr

namespace Node

/-- The permissions of a node. -/
def mode : Node → Nat
  | file mode _ => mode
  | directory mode => mode

/-- A node with other permissions. -/
def withMode (mode : Nat) : Node → Node
  | file _ content => file mode content
  | directory _ => directory mode

/-- Whether a node is a directory. -/
def isDirectory : Node → Bool
  | directory _ => true
  | file _ _ => false

end Node

/-- Leaving out the entries of one key does not matter to what is found under another. -/
theorem lookup_filter_ne {α β : Type} [BEq α] [LawfulBEq α] {key other : α}
    (entries : List (α × β)) (different : other ≠ key) :
    List.lookup other (entries.filter fun entry => entry.1 != key) = List.lookup other entries := by
  induction entries with
  | nil => rfl
  | cons entry rest inductionHypothesis =>
    by_cases same : entry.1 = key
    · have skipped : (other == entry.1) = false := by simpa [same] using different
      rw [List.filter_cons_of_neg (by simp [same]), inductionHypothesis, List.lookup_cons, skipped]
    · rw [List.filter_cons_of_pos (by simpa using same), List.lookup_cons, List.lookup_cons,
        inductionHypothesis]

/-- The tree of a machine, and the directory in which relative paths start. The root is always a
directory. -/
structure FileSystem where
  entries : List (Location × Node)
  workingDirectory : Location

namespace FileSystem

/-- What there is at a place. -/
def find? (files : FileSystem) (location : Location) : Option Node :=
  match location with
  | [] => some ((List.lookup [] files.entries).getD (.directory 0o755))
  | _ => List.lookup location files.entries

/-- The tree without what there is at a place. -/
def erase (location : Location) (files : FileSystem) : FileSystem where
  entries := files.entries.filter fun entry => entry.1 != location
  workingDirectory := files.workingDirectory

/-- The tree with a node at a place, in place of what was there. -/
def insert (location : Location) (node : Node) (files : FileSystem) : FileSystem where
  entries := (location, node) :: (files.erase location).entries
  workingDirectory := files.workingDirectory

/-- A node that has been put somewhere is found there. -/
@[simp] theorem find?_insert_self (files : FileSystem) (location : Location) (node : Node) :
    (files.insert location node).find? location = some node := by
  cases location <;> simp [find?, insert]

/-- Putting a node somewhere changes no other place. -/
theorem find?_insert_of_ne (files : FileSystem) {location other : Location} (node : Node)
    (different : other ≠ location) :
    (files.insert location node).find? other = files.find? other := by
  have found : List.lookup other (files.insert location node).entries =
      List.lookup other files.entries := by
    have skipped : (other == location) = false := by simpa using different
    rw [insert, List.lookup_cons, skipped]
    exact lookup_filter_ne files.entries different
  cases other <;> simp only [find?, found]

/-- Taking a node away changes no other place. -/
theorem find?_erase_of_ne (files : FileSystem) {location other : Location}
    (different : other ≠ location) :
    (files.erase location).find? other = files.find? other := by
  have found := lookup_filter_ne files.entries different
  cases other <;> simp only [find?, erase, found]

/-- Whether there is a directory at a place; otherwise, how a walk through it fails. -/
def requireDirectory (files : FileSystem) (location : Location) : Except IoError Unit :=
  match files.find? location with
  | none => .error .notFound
  | some (.file _ _) => .error .notDirectory
  | some (.directory _) => .ok ()

/-- The longest name of a node, in bytes. -/
def maximumName : Nat := 255

/-- One part of a walk. -/
def enter (files : FileSystem) (location : Location) (part : Text) : Except IoError Location :=
  match files.requireDirectory location with
  | .error failure => .error failure
  | .ok () =>
    if part = [] ∨ part = ['.'] then .ok location
    else if part = ['.', '.'] then .ok location.tail
    else if maximumName < Text.byteLength part then .error .nameTooLong
    else .ok (part :: location)

/-- A walk along the parts of a path. -/
def walk (files : FileSystem) : Location → List Text → Except IoError Location
  | location, [] => .ok location
  | location, part :: rest =>
    match files.enter location part with
    | .error failure => .error failure
    | .ok next => walk files next rest

/-- The longest path, in bytes. -/
def maximumPath : Nat := 4095

/-- Whether a path is one at all; otherwise, how its use fails. -/
def checkPath (path : Path) : Except IoError Unit :=
  if path.contains '\x00' then .error .nulInPath
  else if path = [] then .error .notFound
  else if maximumPath < Text.byteLength path then .error .nameTooLong
  else .ok ()

/-- Where the walk along a path starts. -/
def startOf (files : FileSystem) (path : Path) : Location :=
  if Path.isAbsolute path then [] else files.workingDirectory

/-- The place that a path names. There may be nothing. -/
def locate (files : FileSystem) (path : Path) : Except IoError Location :=
  match checkPath path with
  | .error failure => .error failure
  | .ok () => files.walk (files.startOf path) (Path.parts path)

/-- What there is where a path leads. -/
def status (files : FileSystem) (path : Path) : Except IoError Node :=
  match files.locate path with
  | .error failure => .error failure
  | .ok location =>
    match files.find? location with
    | none => .error .notFound
    | some node => .ok node

/-- Whether a path leads to something. -/
def pathExists (files : FileSystem) (path : Path) : Bool :=
  match files.status path with
  | .ok _ => true
  | .error _ => false

/-- Whether a path leads to a file. -/
def isFile (files : FileSystem) (path : Path) : Bool :=
  match files.status path with
  | .ok (.file _ _) => true
  | _ => false

end FileSystem
end Lockbox
