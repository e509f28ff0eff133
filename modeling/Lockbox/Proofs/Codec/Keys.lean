import Lockbox.Key
import Lockbox.MasterKey
import Lockbox.Proofs.Base64.Spelling

/-!
# Keys that are tokens

The key text of a master key is a token, so the codec resolves it to the digest that it spells.
-/

namespace Lockbox

/-- A token of thirty-two bytes stands for the cipher key that it spells. -/
theorem Key.resolve_of_decode?
    {key : Bytes}
    {cipherKey : CipherKey}
    (decoded : Base64.Token.decode? key = some cipherKey.val) :
    Key.resolve key = .ok cipherKey := by
  rw [Key.resolve, Key.readings, decoded]
  simp

namespace MasterKey

/-- The cipher key derived from a master key. -/
def cipherKey (key : MasterKey) : CipherKey :=
  Sha256.digest key.bytes.val

/-- The codec takes the key text of a master key for the derived key. -/
theorem resolve_cipherKeyText (key : MasterKey) :
    Key.resolve key.cipherKeyText = .ok key.cipherKey := by
  have symbols : (Base64.encode .standard (Sha256.digest key.bytes.val).val).length = 43 := by
    rw [Base64.length_encode, (Sha256.digest key.bytes.val).property]
  apply Key.resolve_of_decode?
  simp only [cipherKeyText, Base64.encodePadded, symbols]
  apply Base64.Token.decode?_marked_encode
  · rw [symbols]
    decide
  · decide

end MasterKey
end Lockbox
