import Lockbox.Machine

/-!
# Well-known directories

Where the secrets and the configuration of a user are, by the variables of the environment, and
where secrets go when that place cannot be used.
-/

namespace Lockbox

namespace Environment

/-- The home directory of the user. -/
def home (environment : Environment) : Path :=
  match environment.find? "HOME" with
  | some (first :: rest) => first :: rest
  | _ => "/root".toList

/-- The directory that a variable names, unless its value is no absolute path; then a place below
the home directory. -/
def baseDirectory (environment : Environment) (name : String) (belowHome : String) : Path :=
  match (environment.find? name).filter Path.isAbsolute with
  | some path => path
  | none => Path.join environment.home belowHome.toList

/-- Where programs keep the data of a user. -/
def dataDirectory (environment : Environment) : Path :=
  environment.baseDirectory "XDG_DATA_HOME" ".local/share"

/-- Where programs keep the configuration of a user. -/
def configDirectory (environment : Environment) : Path :=
  environment.baseDirectory "XDG_CONFIG_HOME" ".config"

/-- The usual directory of the secrets. -/
def secretsDirectory (environment : Environment) : Path :=
  Path.join (Path.join environment.dataDirectory "sealbox".toList) "secrets".toList

/-- The directory of the secrets for want of a better one, among temporary files. -/
def spareDirectory (environment : Environment) : Path :=
  Path.join ((environment.find? "TMPDIR").getD "/tmp".toList) "sealbox-secrets".toList

/-- The file of the configuration. -/
def configFile (environment : Environment) : Path :=
  Path.join (Path.join environment.configDirectory "sealbox".toList) "config.toml".toList

end Environment

namespace Directories

/-- The permissions of a directory of secrets. -/
def privateMode : Nat := 0o700

/-- The directory of a path, made if it is missing, for nobody but its owner. -/
def createPrivate (path : Path) : Action IoError Unit := do
  Action.tryFiles (FileSystem.createDirectories · path)
  Action.changeFiles (FileSystem.setMode · path privateMode)

/-- The requested directory of secrets, or else the usual one, if it can be made, and otherwise the
spare one, whether it can be made or not. -/
def resolve {ε : Type} (requested : Option Path) : Action ε Path := do
  let environment ← Action.observe Machine.environment
  let primary := requested.getD environment.secretsDirectory
  Action.orElse (do createPrivate primary; return primary) fun _ =>
    Action.orElse (do createPrivate environment.spareDirectory; return environment.spareDirectory)
      fun _ => return environment.spareDirectory

end Directories
end Lockbox
