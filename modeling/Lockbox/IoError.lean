import Lockbox.Text.Trim

/-!
# Input and output errors

Why an operation on files or on the standard input fails, with the wording of the system.
-/

namespace Lockbox

/-- A failure of an operation on files or streams. -/
inductive IoError
  | notFound
  | alreadyExists
  | notDirectory
  | isDirectory
  | nameTooLong
  /-- A path holds the character that ends texts of the system. -/
  | nulInPath
  /-- What has been read is not a text. -/
  | notText
  /-- Anything else, in the words of the system. -/
  | other (wording : String)
  deriving DecidableEq, Repr

namespace IoError

/-- The wording of a failure. -/
def message : IoError → String
  | notFound => "No such file or directory (os error 2)"
  | alreadyExists => "File exists (os error 17)"
  | notDirectory => "Not a directory (os error 20)"
  | isDirectory => "Is a directory (os error 21)"
  | nameTooLong => "File name too long (os error 36)"
  | nulInPath => "file name contained an unexpected NUL byte"
  | notText => "stream did not contain valid UTF-8"
  | other wording => wording

end IoError
end Lockbox
