import Lockbox.Text.Trim

/-!
# Paths

A path is a text whose parts are separated by slashes. Two slashes in a row have an empty part
between them, and a slash at the end an empty part behind it.
-/

namespace Lockbox

/-- A path as it is written. -/
abbrev Path := Text

namespace Path

/-- Whether a path starts at the root. -/
def isAbsolute (path : Path) : Bool :=
  path.head? == some '/'

/-- The parts of a path. -/
def parts : Path → List Text
  | [] => [[]]
  | char :: rest =>
    if char = '/' then [] :: parts rest
    else
      match parts rest with
      | [] => [[char]]
      | first :: others => (char :: first) :: others

/-- A path below another one. An absolute path stands for itself. -/
def join (base path : Path) : Path :=
  if isAbsolute path then path
  else if base.isEmpty || base.getLast? == some '/' then base ++ path
  else base ++ ['/'] ++ path

/-- The path of another file in the directory of a path. -/
def beside (path : Path) (name : Text) : Path :=
  (path.reverse.dropWhile (· != '/')).reverse ++ name

/-- Whether a part of a path leads nowhere else: it is empty or stands for the directory itself. -/
def isIdle (part : Text) : Bool :=
  part == [] || part == ['.']

/-- The parts of the path above a path, if there is one. The parts of both are last one first. -/
def above (reversed : List Text) : List Text :=
  ((reversed.dropWhile isIdle).drop 1).dropWhile isIdle

theorem length_above_lt {reversed : List Text} (nonempty : reversed ≠ []) :
    (above reversed).length < reversed.length := by
  have outer := (List.dropWhile_suffix isIdle (l := (reversed.dropWhile isIdle).drop 1)).length_le
  have inner := (List.dropWhile_suffix isIdle (l := reversed)).length_le
  have positive := List.length_pos_iff.mpr nonempty
  rw [List.length_drop] at outer
  unfold above
  omega

end Path
end Lockbox
