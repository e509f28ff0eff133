import Lockbox.Codec
import Lockbox.Directories
import Lockbox.Identity
import Lockbox.MasterKey.Provider
import Lockbox.Store.Error

/-!
# File stores

The secret of an identity is a file in a directory of secrets, sealed under the key derived from
the master key of the store.
-/

namespace Lockbox

/-- The secret of one identity in a directory. -/
structure FileStore where
  directory : Path
  identity : Identity
  masterKey : MasterKey
  codec : Codec := {}
  deriving DecidableEq, Repr

namespace FileStore

/-- The file of the secret. -/
def secretPath (store : FileStore) : Path :=
  Path.join store.directory store.identity.fileName

/-- Whether there is a file of the secret. -/
def isStored (store : FileStore) (files : FileSystem) : Bool :=
  files.isFile store.secretPath

/-- The secret is sealed and put in the place of the one before, in a given way. -/
def putBy (store : FileStore) (place : Path → Bytes → Action IoError Unit) (secret : Text) :
    Action StoreError Unit := do
  if secret.isEmpty then throw .emptySecret
  let payload ← Action.mapError .encryption (Action.draw
    (store.codec.sealText (Utf8.encode secret) store.masterKey.cipherKeyText))
  let path := store.secretPath
  Action.mapError (.file path) (PrivateFile.lock path)
  Action.mapError (.file path) (place path payload)

/-- The secret is sealed and put in the place of the one before. -/
def put (store : FileStore) (secret : Text) : Action StoreError Unit :=
  store.putBy PrivateFile.put secret

/-- How the reading of a secret fails. A file that is gone by then was never there. -/
def readError (path : Path) : IoError → StoreError
  | .notFound => .notFound path
  | failure => .file path failure

/-- The text of the secret in a payload. -/
def openSecret (store : FileStore) (payload : Text) : Except StoreError Text :=
  match Codec.decrypt (Utf8.encode payload) store.masterKey.cipherKeyText with
  | .error failure => .error (.decryption failure)
  | .ok opened =>
    match Utf8.decode opened.plaintext with
    | .error fault => .error (.decryption (.undecodable (.secretNotText fault)))
    | .ok secret => .ok secret

/-- The secret. -/
def get (store : FileStore) : Action StoreError Text := do
  let path := store.secretPath
  if !(← Action.observe fun machine => machine.files.pathExists path) then throw (.notFound path)
  Action.mapError (.file path) (PrivateFile.lock path)
  let payload ← Action.mapError (readError path) (Action.lookFiles (FileSystem.readText · path))
  Action.lift (store.openSecret payload)

/-- The secret is removed, if there is one. -/
def delete (store : FileStore) : Action StoreError Unit := do
  let path := store.secretPath
  if !(← Action.observe fun machine => machine.files.pathExists path) then return ()
  Action.mapError (.file path) (PrivateFile.lock path)
  match ← Action.observe (fun machine => machine.files.remove path) with
  | .error .notFound => return ()
  | _ => Action.mapError (.file path) (Action.changeFiles (FileSystem.remove · path))

/-- A store whose master key comes from a provider. The directory has to be there or to be made. -/
def openWith (identity : Identity) (directory : Path) (provider : KeyProvider) (codec : Codec) :
    Action StoreError (FileStore × KeyProvider) := do
  Action.mapError (.file directory) (Directories.createPrivate directory)
  let (masterKey, next) ← Action.mapError (.noMasterKey directory) provider.resolve
  return ({ directory := directory, identity := identity, masterKey := masterKey, codec := codec },
    next)

/-- That not even the generator of the process has a seed. -/
inductive Seedless
  | seedless
  deriving DecidableEq, Repr

/-- A key from the generator of the process. -/
def lastResort : Action Seedless MasterKey := fun machine =>
  match machine.generator.key machine.random with
  | (some (bytes, generator), rest) =>
    (.ok { bytes := bytes, origin := .ephemeral },
      { machine with random := rest, generator := generator })
  | (none, rest) => (.error .seedless, { machine with random := rest })

/-- A store made from settings. Where the settings cannot be followed, another directory and a
master key for this process alone take their place. -/
def bootstrap (identity : Identity) (settings : Settings) (codec : Codec) :
    Action Seedless FileStore := do
  let directory ← Directories.resolve settings.secretsDirectory
  let masterKey ← Action.orElse (MasterKey.ofDirectoryOr settings.masterKey directory)
    fun (_ : KeyError) => Action.orElse MasterKey.ephemeral fun (_ : KeyError) => lastResort
  return { directory := directory, identity := identity, masterKey := masterKey, codec := codec }

end FileStore
end Lockbox
