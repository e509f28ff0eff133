import Lockbox.Key
import Lockbox.Store.Error

/-!
# Failures

Why a command of the program fails, with the wording of the failure and of what caused it.
-/

namespace Lockbox

/-- A failure of a command. -/
inductive Failure
  | io (failure : IoError)
  /-- The file of the configuration cannot be understood. -/
  | configuration
  | codec (failure : CodecError)
  | store (failure : StoreError)
  /-- The store whose master key is in the keyring cannot be opened. -/
  | keyringStore (failure : StoreError)
  /-- The standard input holds no secret. -/
  | noSecretGiven
  /-- What was encrypted did not come back. -/
  | codecUnhealthy
  /-- What was stored did not come back. -/
  | storeUnhealthy
  /-- There is no randomness at all. -/
  | seedless
  /-- No buffer has room for what is asked for. -/
  | oversized
  deriving DecidableEq, Repr

namespace Failure

/-- The wording of a failure and of its causes, outermost first. Those of a configuration that
cannot be understood and of a generator without a seed are this library's own, one for all their
kinds. -/
def chain : Failure → List String
  | io failure => [failure.message]
  | configuration => ["the configuration is not valid TOML for this program"]
  | codec failure => [failure.message]
  | store failure => failure.chain
  | keyringStore failure => "opening keyring-backed secret store" :: failure.chain
  | noSecretGiven => ["no secret given on stdin"]
  | codecUnhealthy => ["codec round-trip failed"]
  | storeUnhealthy => ["storage round-trip failed"]
  | seedless => ["could not seed the generator of this process"]
  | oversized => ["capacity overflow"]

/-- The failure of a command that could not generate a key. -/
def ofGeneration : Key.GenerationFailure → Failure
  | .codec failure => codec failure
  | .oversized => oversized

end Failure
end Lockbox
