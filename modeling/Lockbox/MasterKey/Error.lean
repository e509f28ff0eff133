import Lockbox.CodecError
import Lockbox.IoError
import Lockbox.FileSystem.Path
import Lockbox.Keyring
import Lockbox.MasterKey

/-!
# Master key errors

Why a master key cannot be had, and the wording.
-/

namespace Lockbox

/-- Why a provider has no master key to give. -/
inductive KeyError
  | keyring (failure : KeyringError)
  /-- A new key was given to the keyring but cannot be read back; without a failure, what is read
  back differs. -/
  | notPersisted (name : KeyringName) (failure : Option KeyringError)
  | decode (fault : MasterKeyFault)
  /-- No random bytes for a new key. -/
  | generation
  | file (path : Path) (failure : IoError)
  deriving DecidableEq, Repr

namespace KeyError

/-- The reason for which a key is not kept. -/
def readBackReason : Option KeyringError → String
  | some failure => failure.message
  | none => "read-back does not match"

/-- The wording of an error. -/
def message : KeyError → String
  | keyring failure => s!"keyring error: {failure.message}"
  | notPersisted name failure =>
    s!"keyring error: master key for {String.ofList name.service}/" ++
      s!"{String.ofList name.account} was not persisted: {readBackReason failure}"
  | decode fault => s!"decode error: {fault.message}"
  | generation => s!"generation error: {CodecError.noRandomness.message}"
  | file path failure => s!"key file {String.ofList path}: {failure.message}"

end KeyError
end Lockbox
