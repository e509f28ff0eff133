import Lockbox.CodecError
import Lockbox.Identity
import Lockbox.Machine
import Lockbox.Store.Error

/-!
# Memory stores

The secret of an identity is kept in memory, masked but not encrypted. A copy of a store shares its
secret. This is for trials: it keeps nothing beyond the process and protects nothing within it.
-/

namespace Lockbox

/-- The secret of one identity in a cell of memory. -/
structure MemoryStore where
  identity : Identity
  cell : Nat
  deriving DecidableEq, Repr

namespace MemoryStore

/-- The byte with which secrets are masked. -/
def maskByte : UInt8 := 0xA5

/-- A buffer masked, or unmasked. -/
def mask (bytes : Bytes) : Bytes :=
  bytes.map (· ^^^ maskByte)

@[simp] theorem mask_mask (bytes : Bytes) : mask (mask bytes) = bytes := by
  have restored (byte : UInt8) : byte ^^^ maskByte ^^^ maskByte = byte := by
    rw [UInt8.xor_assoc, UInt8.xor_self, UInt8.xor_zero]
  simp only [mask, List.map_map, Function.comp_def, restored, List.map_id_fun']
  rfl

/-- A new store, which keeps nothing. -/
def create {ε : Type} (identity : Identity) : Action ε MemoryStore := do
  let cell ← Action.newCell
  return { identity := identity, cell := cell }

/-- A copy of a store, which has the same cell. -/
def copy (store : MemoryStore) : MemoryStore :=
  { identity := store.identity, cell := store.cell }

/-- The secret takes the place of the one before. -/
def put (store : MemoryStore) (secret : Text) : Action StoreError Unit := do
  if secret.isEmpty then throw .emptySecret
  Action.setCell store.cell (some (mask (Utf8.encode secret)))

/-- The secret. -/
def get (store : MemoryStore) : Action StoreError Text := do
  match ← Action.observe (fun machine => machine.cells[store.cell]?.join) with
  | none => throw (.notFound store.identity.fileName)
  | some masked =>
    match Utf8.decode (mask masked) with
    | .ok secret => return secret
    | .error fault => throw (.decryption (.undecodable (.notText fault)))

/-- The secret is removed, if there is one. -/
def delete (store : MemoryStore) : Action StoreError Unit :=
  Action.setCell store.cell none

end MemoryStore
end Lockbox
