import Lockbox.Store.FileStore
import Lockbox.Store.MemoryStore

/-!
# Stores

What file stores and memory stores have in common: they keep at most one secret of one identity.
-/

namespace Lockbox

/-- A store of either kind. -/
inductive Store
  | file (store : FileStore)
  | memory (store : MemoryStore)
  deriving DecidableEq, Repr

namespace Store

/-- The identity whose secret a store keeps. -/
def identity : Store → Identity
  | file store => store.identity
  | memory store => store.identity

/-- The secret takes the place of the one before. -/
def put : Store → Text → Action StoreError Unit
  | file store => store.put
  | memory store => store.put

/-- The secret. -/
def get : Store → Action StoreError Text
  | file store => store.get
  | memory store => store.get

/-- The secret is removed, if there is one. -/
def delete : Store → Action StoreError Unit
  | file store => store.delete
  | memory store => store.delete

end Store
end Lockbox
