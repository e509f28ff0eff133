import Lockbox.Codec
import Lockbox.Toml.Document
import Lockbox.Toml.Range
import Lockbox.Toml.Writer

/-!
# Configuration

What a user sets once for all uses of the program: where secrets are kept, where the master key
comes from, and how payloads are made. It is kept in a TOML document.
-/

namespace Lockbox

/-- Where the master key comes from when none is given explicitly. -/
inductive KeySource
  /-- A file in the directory of the secrets. -/
  | file
  /-- The keyring of the operating system. -/
  | keyring
  deriving DecidableEq, Repr

namespace KeySource

/-- The name of a key source in a configuration. -/
def name : KeySource → Text
  | file => "file".toList
  | keyring => "keyring".toList

/-- The key source of a name. -/
def ofName? (text : Text) : Option KeySource :=
  if text = file.name then some file
  else if text = keyring.name then some keyring
  else none

end KeySource

/-- The settings of a user. -/
structure Config where
  /-- The directory of the secrets, unless it is the usual one. -/
  secretsDirectory : Option Text := none
  keySource : KeySource := .file
  codec : Codec := {}
  deriving DecidableEq, Repr

namespace Config

/-- The choice that a value names: a string, or a table whose only entry has the name and an empty
value. -/
def choice? {α : Type} (ofName? : Text → Option α) : Toml.Value → Option α
  | .string name => ofName? name
  | .table _ [(name, .array [])] => ofName? name
  | .table _ [(name, .table _ [])] => ofName? name
  | _ => none

/-- The truth value that a value is. -/
def bool? : Toml.Value → Option Bool
  | .bool value => some value
  | _ => none

/-- The text that a value is. -/
def text? : Toml.Value → Option Text
  | .string content => some content
  | _ => none

/-- What an entry says, or a default if there is no such entry; none if it says nothing
sensible. -/
def entry? {α : Type} (read? : Toml.Value → Option α) (absent : α) : Option Toml.Value → Option α
  | none => some absent
  | some value => read? value

/-- The codec that two entries describe. -/
def codecOfFields? (algorithm legacyDetection : Option Toml.Value) : Option Codec := do
  let absent : Codec := {}
  let algorithm ← entry? (choice? Algorithm.ofName?) absent.algorithm algorithm
  let legacyDetection ← entry? bool? absent.legacyDetection legacyDetection
  return { algorithm := algorithm, legacyDetection := legacyDetection }

/-- The codec that a value describes: a table with named entries, or an array of them in order.
What is missing has its default. Further entries of a table are ignored, but their numbers must be
in range; further items of an array are not looked at. A date counts as a table, and nothing in it
is known. -/
def codec? : Toml.Value → Option Codec
  | .table _ entries =>
    let entries : Toml.Entries := entries
    if Toml.areEntriesInRange entries then
      codecOfFields? (entries.find? "algorithm".toList) (entries.find? "legacy_detection".toList)
    else none
  | .array items => codecOfFields? items[0]? items[1]?
  | .tables earlier entries =>
    let items := earlier ++ [.table .header entries]
    codecOfFields? items[0]? items[1]?
  | .dateTime _ => some {}
  | _ => none

/-- The name of the entry that describes the codec. -/
def codecName : Text := "codec".toList

/-- The configuration that a document describes. What is unknown is ignored, but its numbers must be
in range. -/
def ofEntries? (entries : Toml.Entries) : Option Config := do
  guard (Toml.areEntriesInRange (entries.filter fun entry => entry.1 ≠ codecName))
  let directory ← entry? (fun value => (text? value).map some) none
    (entries.find? "secrets_dir".toList)
  let keySource ← entry? (choice? KeySource.ofName?) KeySource.file
    (entries.find? "key_source".toList)
  let codec ← entry? codec? {} (entries.find? codecName)
  return { secretsDirectory := directory, keySource := keySource, codec := codec }

/-- The configuration that a text describes. -/
def parse? (text : Text) : Option Config :=
  (Toml.parse? text).bind ofEntries?

/-- A line that gives a name its value. -/
def line (name : String) (value : Text) : Text :=
  name.toList ++ " = ".toList ++ value ++ ['\n']

/-- A truth value as it is written. -/
def writtenBool : Bool → Text
  | true => "true".toList
  | false => "false".toList

/-- The text that describes a configuration. -/
def toText (config : Config) : Text :=
  (match config.secretsDirectory with
    | none => []
    | some directory => line "secrets_dir" (Toml.written directory)) ++
    line "key_source" (Toml.written config.keySource.name) ++ ['\n'] ++
    "[codec]\n".toList ++
    line "algorithm" (Toml.written config.codec.algorithm.name) ++
    line "legacy_detection" (writtenBool config.codec.legacyDetection)

end Config
end Lockbox
