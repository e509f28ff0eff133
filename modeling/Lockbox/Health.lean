import Lockbox.Failure
import Lockbox.Store

/-!
# Health checks

A trial of the codec and a trial of a store, each with a round trip.
-/

namespace Lockbox
namespace Health

/-- The plaintext of the trial of a codec. -/
def sample : Bytes :=
  Utf8.encode "health check".toList

/-- A trial of a codec under a new key: what is encrypted is recognised and comes back. -/
def checkCodec (codec : Codec) : Drawing Failure Unit := do
  let key ← ExceptT.adapt Failure.codec Key.generate
  let result ← ExceptT.adapt Failure.codec (codec.encrypt sample key)
  match Codec.decrypt result.ciphertext key with
  | .error failure => throw (.codec failure)
  | .ok opened =>
    if codec.isEncrypted result.ciphertext && opened.plaintext == sample then return ()
    else throw .codecUnhealthy

/-- The secret of the trial of a store. -/
def trialSecret : Text :=
  "ok".toList

/-- A trial of a store: what is stored comes back and can be removed. -/
def checkStore (store : Store) : Action Failure Unit := do
  Action.mapError .store (store.put trialSecret)
  let secret ← Action.mapError .store store.get
  Action.mapError .store store.delete
  if secret = trialSecret then return () else throw .storeUnhealthy

end Health
end Lockbox
