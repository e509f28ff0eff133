import Lockbox.Config
import Lockbox.Directories
import Lockbox.Failure

/-!
# The file of the configuration

A missing or blank file stands for the defaults. A file that is there is never changed.
-/

namespace Lockbox
namespace Config

/-- The configuration in the file of a path. -/
def ofFile (path : Path) (files : FileSystem) : Except Failure Config :=
  if files.pathExists path then
    match files.readText path with
    | .error failure => .error (.io failure)
    | .ok text =>
      if text.all Text.isBlank then .ok {}
      else
        match parse? text with
        | none => .error .configuration
        | some config => .ok config
  else .ok {}

/-- The configuration of the user. -/
def load : Action Failure Config := do
  let path ← Action.observe fun machine => machine.environment.configFile
  Action.lookFiles (ofFile path)

/-- A configuration is written to the file of a path, with the directories above it, unless
something is there. -/
def writeIfMissing (config : Config) (path : Path) : Action IoError Unit := do
  if ← Action.observe fun machine => machine.files.pathExists path then return ()
  Action.tryFiles (FileSystem.createAbove · path)
  Action.changeFiles (FileSystem.write · path (Utf8.encode config.toText))

/-- A configuration is written to the file of the user, unless something is there; the result is
the path of the file. -/
def establish (config : Config) : Action Failure Path := do
  let path ← Action.observe fun machine => machine.environment.configFile
  Action.mapError .io (config.writeIfMissing path)
  return path

end Config
end Lockbox
