import Lockbox.Text.Quoted

/-!
# Settings of a store

The directory of the secrets and an explicit master key, from the environment or from elsewhere.
Blank variables count as unset.
-/

namespace Lockbox

/-- The variables of a process, each with its value. -/
abbrev Environment := List (Text × Text)

namespace Environment

/-- The value of a variable. -/
def find? (name : String) (environment : Environment) : Option Text :=
  List.lookup name.toList environment

end Environment

/-- What a store is told from outside. -/
structure Settings where
  /-- The directory of the secrets. -/
  secretsDirectory : Option Text := none
  /-- A master key as text, or the path of a file that holds it. -/
  masterKey : Option Text := none
  deriving DecidableEq, Repr

namespace Settings

/-- The variable that names the directory of the secrets. -/
def directoryVariable : String := "APP_SECRETS_DIR"

/-- The variable that gives the master key. -/
def masterKeyVariable : String := "APP_MASTER_KEY"

/-- A value that is not blank. -/
def present? (value : Option Text) : Option Text :=
  value.filter fun text => !text.all Text.isBlank

/-- The settings that the environment makes. -/
def ofEnvironment (environment : Environment) : Settings where
  secretsDirectory := present? (environment.find? directoryVariable)
  masterKey := present? (environment.find? masterKeyVariable)

/-- The settings, with those of a fallback for what is unset. -/
def orElse (settings fallback : Settings) : Settings where
  secretsDirectory := settings.secretsDirectory <|> fallback.secretsDirectory
  masterKey := settings.masterKey <|> fallback.masterKey

/-- A value that may be unset, in its printed form. -/
def printedOption : Option Text → Text
  | none => "None".toList
  | some value => "Some(".toList ++ Text.quoted value ++ [')']

/-- A printed form that does not show the master key. -/
def redacted (settings : Settings) : Text :=
  "StoreSettings \x7b secrets_dir: ".toList ++ printedOption settings.secretsDirectory ++
    ", master_key: ".toList ++
    printedOption (settings.masterKey.map fun _ => "<redacted>".toList) ++ " \x7d".toList

end Settings
end Lockbox
