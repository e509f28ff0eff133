import Lockbox.MasterKey.Error
import Lockbox.PrivateFile

/-!
# Master key providers

A master key is kept in a file beside the secrets, in the keyring, or nowhere but in memory. A key
that is not there yet is made when it is first asked for; a key that is there is never changed.
-/

namespace Lockbox

namespace MasterKey

/-- A new key. -/
def generate (origin : KeyOrigin) : Action KeyError MasterKey := do
  let bytes ← Action.draw (Drawing.request .generation 32)
  return { bytes := bytes, origin := origin }

/-- A new key for this process alone. -/
def ephemeral : Action KeyError MasterKey :=
  generate .ephemeral

/-- The key that a text spells. -/
def ofText (text : Text) (origin : KeyOrigin) : Except KeyError MasterKey :=
  (parse text origin).mapError KeyError.decode

/-- The key that an explicit value gives: the value spells it, or leads to a file that does. -/
def ofExplicit (value : Text) (files : FileSystem) : Except KeyError MasterKey :=
  let path := Text.trim value
  if files.isFile path then
    match files.readText path with
    | .error failure => .error (.file path failure)
    | .ok content => ofText content .environment
  else ofText value .environment

/-- The file of the key in a directory of secrets. -/
def filePath (directory : Path) : Path :=
  Path.join directory "master.key".toList

/-- The key of the key file of a directory. If there is no file, a new key is made and kept in
one. All this happens under the lock of the file. -/
def ofDirectory (directory : Path) : Action KeyError MasterKey := do
  let path := filePath directory
  Action.mapError (.file path) (PrivateFile.lock path)
  match ← Action.observe (fun machine => machine.files.readText path) with
  | .ok content => Action.lift (ofText content (.keyFile path))
  | .error .notFound =>
    let key ← generate (.generated path)
    Action.mapError (.file path) (PrivateFile.put path key.encode)
    return key
  | .error failure => throw (.file path failure)

/-- The key of a directory, unless an explicit value gives one. A value that gives none is passed
over. -/
def ofDirectoryOr (explicit : Option Text) (directory : Path) : Action KeyError MasterKey := do
  match explicit with
  | none => ofDirectory directory
  | some value =>
    Action.orElse (Action.lookFiles (ofExplicit value)) fun (_ : KeyError) => ofDirectory directory

/-- A check that a new key can be read back from the keyring, through an entry that is opened
afresh. -/
def verifyKept (name : KeyringName) (key : MasterKey) : Action KeyError Unit := do
  let unkept := fun failure => KeyError.notPersisted name (some failure)
  Action.mapError unkept (Action.tryKeyring fun keyring => keyring.openEntry)
  let text ← Action.mapError unkept (Action.tryKeyring fun keyring => keyring.read name)
  if text = Text.ofAscii key.encode then return () else throw (.notPersisted name none)

/-- A new key, given to the keyring under a name and read back. -/
def keepNew (name : KeyringName) : Action KeyError MasterKey := do
  let key ← generate .keyring
  Action.mapError .keyring (Action.tryKeyring fun keyring => keyring.write name key.encode)
  verifyKept name key
  return key

/-- The key that the keyring keeps under a name. If it keeps none, it is given a new one. -/
def ofKeyring (name : KeyringName) : Action KeyError MasterKey := do
  Action.mapError .keyring (Action.tryKeyring fun keyring => keyring.openEntry)
  match ← Action.attempt (Action.tryKeyring fun keyring => keyring.read name) with
  | .ok text => Action.lift (ofText text .keyring)
  | .error .noEntry => keepNew name
  | .error failure => throw (.keyring failure)

end MasterKey

/-- Where a program asks for its master key. -/
inductive KeyProvider
  /-- An explicit value or the key file of a directory. -/
  | file (directory : Path) (explicit : Option Text)
  /-- An entry of the keyring. -/
  | keyring (name : KeyringName)
  /-- Memory, which may hold a key already. -/
  | memory (key : Option MasterKey)
  deriving DecidableEq, Repr

namespace KeyProvider

/-- The key of a provider, and the provider from then on: one in memory remembers its key. -/
def resolve : KeyProvider → Action KeyError (MasterKey × KeyProvider)
  | file directory explicit => do
    return (← MasterKey.ofDirectoryOr explicit directory, file directory explicit)
  | keyring name => do
    return (← MasterKey.ofKeyring name, keyring name)
  | memory (some key) => return (key, memory (some key))
  | memory none => do
    let key ← MasterKey.ephemeral
    return (key, memory (some key))

end KeyProvider
end Lockbox
