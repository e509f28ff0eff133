import Lockbox.Cipher.Aes256Gcm
import Lockbox.Cipher.XChaCha20Poly1305
import Lockbox.CodecError

/-!
# Algorithms

The ciphers that a payload can be under, with the names that people write and the tags that
payloads carry.
-/

namespace Lockbox

/-- A cipher of the library. -/
inductive Algorithm
  | xChaCha20Poly1305
  | aes256Gcm
  deriving DecidableEq, Repr

namespace Algorithm

/-- The length of a nonce. -/
def nonceLength : Algorithm → Nat
  | xChaCha20Poly1305 => 24
  | aes256Gcm => 12

/-- The name of an algorithm in settings. -/
def name : Algorithm → Text
  | xChaCha20Poly1305 => "xchacha20-poly1305".toList
  | aes256Gcm => "aes-256-gcm".toList

/-- The byte that stands for an algorithm in a payload. -/
def tag : Algorithm → UInt8
  | xChaCha20Poly1305 => 1
  | aes256Gcm => 2

/-- The algorithm that a byte stands for. -/
def ofTag? (tag : UInt8) : Option Algorithm :=
  if tag = 1 then some xChaCha20Poly1305
  else if tag = 2 then some aes256Gcm
  else none

@[simp] theorem ofTag?_tag (algorithm : Algorithm) : ofTag? algorithm.tag = some algorithm := by
  cases algorithm <;> rfl

theorem ofTag?_eq_some_iff {tag : UInt8} {algorithm : Algorithm} :
    ofTag? tag = some algorithm ↔ tag = algorithm.tag := by
  constructor
  · intro found
    unfold ofTag? at found
    split at found
    next one =>
      obtain rfl := Option.some.inj found
      exact one
    next =>
      split at found
      next two =>
        obtain rfl := Option.some.inj found
        exact two
      next => cases found
  · rintro rfl
    exact ofTag?_tag algorithm

/-- The cipher itself. -/
def aead : Algorithm → Aead
  | xChaCha20Poly1305 => XChaCha20Poly1305.aead
  | aes256Gcm => Aes256Gcm.aead

/-- The shortest body of a payload: a nonce and a tag. -/
def minimumBody (algorithm : Algorithm) : Nat :=
  algorithm.nonceLength + tagLength

/-- The algorithm whose full name has exactly this spelling. -/
def ofName? (text : Text) : Option Algorithm :=
  if text = xChaCha20Poly1305.name then some xChaCha20Poly1305
  else if text = aes256Gcm.name then some aes256Gcm
  else none

/-- The algorithm of a name in any case, full or short, with white space around it. -/
def parse (text : Text) : Except CodecError Algorithm :=
  let lowered := Text.toLowerAscii (Text.trim text)
  match ofName? lowered with
  | some algorithm => .ok algorithm
  | none =>
    if lowered = "xchacha".toList then .ok xChaCha20Poly1305
    else if lowered = "aes".toList then .ok aes256Gcm
    else .error (.undecodable (.unknownAlgorithm lowered))

end Algorithm
end Lockbox
