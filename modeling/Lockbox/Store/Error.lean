import Lockbox.MasterKey.Error

/-!
# Store errors

Why a store refuses an operation or cannot be opened, and the wording.
-/

namespace Lockbox

/-- Why an operation on a store fails. -/
inductive StoreError
  /-- Nothing to store. -/
  | emptySecret
  | notFound (path : Path)
  | file (path : Path) (failure : IoError)
  /-- The store of a directory cannot be opened for want of a master key. -/
  | noMasterKey (directory : Path) (failure : KeyError)
  | encryption (failure : CodecError)
  | decryption (failure : CodecError)
  deriving DecidableEq, Repr

namespace StoreError

/-- The wording of an error. -/
def message : StoreError → String
  | emptySecret => "secret cannot be empty"
  | notFound path => s!"no secret stored at {String.ofList path}"
  | file path failure => s!"i/o failure on {String.ofList path}: {failure.message}"
  | noMasterKey directory failure =>
    s!"i/o failure on {String.ofList directory}: key provider: {failure.message}"
  | encryption failure => s!"encryption failed: {failure.message}"
  | decryption failure => s!"decryption failed: {failure.message}"

/-- Whether a stored secret has been tampered with or belongs to another key. -/
def isAuthenticationFailure : StoreError → Bool
  | decryption .authenticationFailure => true
  | _ => false

/-- The wording of an error and of what caused it. -/
def chain : StoreError → List String
  | encryption failure => [message (encryption failure), failure.message]
  | decryption failure => [message (decryption failure), failure.message]
  | failure => [failure.message]

end StoreError
end Lockbox
